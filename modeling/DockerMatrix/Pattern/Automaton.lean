/-
# Automata

How a text is matched with a pattern. A pattern becomes an automaton, whose nodes are numbered.

| node | goes on |
| --- | --- |
| `stop` | not at all: the match ends |
| `read` | over a character from a set |
| `ask` | at a place as it is asked to be |
| `fork` | at two nodes, rather the first one |

All ways through the automaton are followed at once, in their order of preference. A way that comes
to a node where a preferred one has been is dropped, so the loops of an automaton end, and so are
those behind a way that stops. `fits` begins at every place of the text, rather at an earlier one,
and says whether the preferred match ends where the text ends.
-/

import DockerMatrix.Pattern.Basic

namespace DockerMatrix
namespace Pattern

/-- A node of an automaton, with the numbers of those behind it. -/
inductive Node
  | stop
  | read (s : Charset) (next : Nat)
  | ask (a : Assertion) (next : Nat)
  | fork (first second : Nat)
  deriving DecidableEq, Repr

namespace Node

/-- Another round, or the end of a repetition. -/
def branch (greedy : Bool) (round finish : Nat) : Node :=
  if greedy then fork round finish else fork finish round

/-- The nodes that a node leads to without a character, in order of preference. -/
def free (here : Place) : Node → List Nat
  | stop => []
  | read _ _ => []
  | ask a next => if a.holds here then [next] else []
  | fork first second => [first, second]

/-- The node that a node leads to over a character. -/
def over? (c : Char) : Node → Option Nat
  | read s next => if s.contains c then some next else none
  | _ => none

end Node

/-- The nodes with those of a pattern added, and the one that the pattern begins at; behind the
pattern it goes on at the node `next`. A repetition that need not have a round begins at the node
behind its rounds. If a round can be empty, it begins at a node of its own: at the other one, the
way through an empty round would be dropped, for it has been there. -/
def compile : Pattern → Nat → Array Node → Nat × Array Node
  | empty, next, nodes => (next, nodes)
  | literal text, next, nodes =>
    text.foldr (fun c (entry, nodes) => (nodes.size, nodes.push (.read (.single c) entry)))
      (next, nodes)
  | one _ s, next, nodes => (nodes.size, nodes.push (.read s next))
  | assertion a, next, nodes => (nodes.size, nodes.push (.ask a next))
  | group _ p, next, nodes => p.compile next nodes
  | sequence p q, next, nodes =>
    let (middle, nodes) := q.compile next nodes
    p.compile middle nodes
  | choice p q, next, nodes =>
    let (first, nodes) := p.compile next nodes
    let (second, nodes) := q.compile next nodes
    (nodes.size, nodes.push (.fork first second))
  | repetition .atMostOne greedy p, next, nodes =>
    let (round, nodes) := p.compile next nodes
    (nodes.size, nodes.push (.branch greedy round next))
  | repetition rounds greedy p, next, nodes =>
    let loop := nodes.size
    let (round, nodes) := p.compile loop (nodes.push .stop)
    let nodes := nodes.setIfInBounds loop (.branch greedy round next)
    if rounds = .atLeastOne then (round, nodes)
    else if p.leastLength?.any (0 < ·) then (loop, nodes)
    else (nodes.size, nodes.push (.branch greedy round next))

/-- The nodes that are reached from nodes without a character, the preferred ones first; `seen` are
those that have been reached before, the last one first. Each node is passed once, and two others
are behind it at most, which bounds the steps. -/
def reachFrom (nodes : Array Node) (here : Place) : Nat → List Nat → List Nat → List Nat
  | 0, _, seen => seen.reverse
  | _, [], seen => seen.reverse
  | n + 1, i :: rest, seen =>
    if seen.contains i then reachFrom nodes here n rest seen
    else
      let behind := (nodes[i]?.map (Node.free here)).getD []
      reachFrom nodes here n (behind ++ rest) (i :: seen)

/-- The nodes that are reached from nodes at a place. -/
def reach (nodes : Array Node) (here : Place) (starts : List Nat) : List Node :=
  (reachFrom nodes here (starts.length + 2 * nodes.size) starts []).filterMap (nodes[·]?)

/-- Whether a text is at its end when the preferred way stops. The ways go on at the nodes `starts`,
and the character in front of the text is given. -/
def endsWithText (nodes : Array Node) (before : Option Char) (starts : List Nat) :
    List Char → Bool
  | [] => (reach nodes ⟨before, none⟩ starts).contains .stop
  | c :: rest =>
    let ways := (reach nodes ⟨before, some c⟩ starts).takeWhile (· ≠ .stop)
    endsWithText nodes (some c) (ways.filterMap (Node.over? c)) rest

/-- A pattern at any place of a text, rather at an earlier one. -/
def anywhere (p : Pattern) : Pattern :=
  sequence (repetition .any false (one false .all)) p

/-- Whether the preferred match of those that begin first ends where the text ends. -/
def fits (p : Pattern) (text : String) : Bool :=
  let (entry, nodes) := p.anywhere.compile 0 #[.stop]
  endsWithText nodes none [entry] text.toList

end Pattern
end DockerMatrix
