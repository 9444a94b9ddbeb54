/-
# Cutting a text at byte offsets

A piece of a text is given by the byte offsets of its ends in the text's UTF-8 form. There is such a
piece only if both offsets fall between characters; where one does not, a message says which character
it lies inside.
-/

import DockerMatrix.Text.Quoted

namespace DockerMatrix
namespace Text

/-- The number of bytes of characters in UTF-8. -/
def byteSize : List Char → Nat
  | [] => 0
  | c :: rest => c.utf8Size + byteSize rest

/-- The characters before an offset, and those behind it. -/
def splitAt? : Nat → List Char → Option (List Char × List Char)
  | 0, cs => some ([], cs)
  | _ + 1, [] => none
  | n + 1, c :: rest =>
    if c.utf8Size ≤ n + 1 then
      (splitAt? (n + 1 - c.utf8Size) rest).map fun parts => (c :: parts.1, parts.2)
    else none

/-- The characters from an offset on. -/
def cutFrom? (start : Nat) (cs : List Char) : Option (List Char) :=
  (splitAt? start cs).map Prod.snd

/-- The characters from one offset to another. -/
def cut? (start stop : Nat) (cs : List Char) : Option (List Char) :=
  match splitAt? stop cs with
  | none => none
  | some parts => cutFrom? start parts.1

/-- The character that an offset lies inside, if there is one, and the offset where it begins. The
characters begin at an offset of their own. -/
def around? (offset first : Nat) : List Char → Option (Char × Nat)
  | [] => none
  | c :: rest =>
    if offset ≤ first then none
    else if offset < first + c.utf8Size then some (c, first)
    else around? offset (first + c.utf8Size) rest

/-- What is said about one end of a piece, at an offset where the text cannot be cut. -/
def endMessage (name : String) (offset : Nat) (cs : List Char) : String :=
  name ++ " byte index " ++ toString offset ++
    match around? offset 0 cs with
    | some (c, first) =>
      " is not a char boundary; it is inside '" ++ String.ofList (escape c) ++ "' (bytes " ++
        toString first ++ ".." ++ toString (first + c.utf8Size) ++ " of string)"
    | none => " is out of bounds for string of length " ++ toString (byteSize cs)

/-- What is said where there is no piece from one offset to another. The start of the piece is looked
at before its end. -/
def cutMessage (start stop : Nat) (cs : List Char) : String :=
  if (splitAt? start cs).isNone then endMessage "start" start cs else endMessage "end" stop cs

/-- **Between two parts of a text there is always a cut.** -/
theorem splitAt?_append (xs ys : List Char) :
    splitAt? (byteSize xs) (xs ++ ys) = some (xs, ys) := by
  induction xs with
  | nil => cases ys <;> rfl
  | cons c rest ih =>
    obtain ⟨n, hn⟩ : ∃ n, c.utf8Size = n + 1 := ⟨c.utf8Size - 1, by have := c.utf8Size_pos; omega⟩
    have hs : byteSize (c :: rest) = (n + byteSize rest) + 1 := by simp only [byteSize, hn]; omega
    have hr : (n + byteSize rest) + 1 - c.utf8Size = byteSize rest := by omega
    rw [hs, List.cons_append, splitAt?, if_pos (by omega), hr, ih]
    rfl

end Text
end DockerMatrix
