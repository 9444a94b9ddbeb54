/-
# One Dockerfile is stored as a whole or not at all

Storing the Dockerfile of a target in a directory has one of four ends, whatever the directory's path
is and whatever stands in the tree (`store_allOrNothing`).

| end | answer | tree |
| --- | --- | --- |
| stored | the path | one file has changed, the one that the path leads to |
| discarded | the path | as it was: a device has taken the Dockerfile and keeps nothing |
| not created | `could not create`, the path, the cause | as it was |
| not written | `could not write`, the path, the cause | as it was: the device is full |

The file that has changed holds the Dockerfile and nothing else.  It may lie far from the directory,
where a chain of links ends that dangled before.  This is said of the stages in which a Dockerfile is
stored, and of every way to cut it into pieces; a run does the same in one step.
-/

import DockerMatrix.Proofs.FileTree.Resolution
import DockerMatrix.Proofs.FileTree.Stages
import DockerMatrix.Proofs.Generation.Result

namespace DockerMatrix
namespace Generation

open FileTree
open Text (Bytes)

variable {here l : Location} {directory p : Path} {t : FileTree} {target : Target}

/-- A path that is walked to create a file leads to what stands there already, if anything does. -/
theorem resolvesTo_of_create {e : Entry} (he : t.get? l = some e)
    (h : t.locate .create here p = .ok l) : t.ResolvesTo here p l := by
  have hne : t.get? l ≠ none := by simp [he]
  obtain ⟨hnul, hnil, hlength, hw⟩ := locate_ok_iff.1 h
  exact locate_read_ok_iff.1
    (locate_ok_iff.2 ⟨hnul, hnil, hlength, walk_read_of_create hne linkLimit _ _ hw⟩)

/-- How storing the Dockerfile of a target at the end of a path ends: the answer, and the tree that is
left. -/
inductive AllOrNothing (here : Location) (p : Path) (t : FileTree) (target : Target) :
    Except StorageError Path × FileTree → Prop
  /-- The path leads to a file that holds the Dockerfile.  It is new, or its old contents are gone;
  nothing else has changed. -/
  | stored (t' : FileTree) (l : Location) (leads : t'.ResolvesTo here p l)
      (holds : t'.get? l = some (.file (Text.encode target.dockerfile)))
      (before : t.get? l = none ∨
        ∃ contents, t.get? l = some (.file contents) ∧ t.ResolvesTo here p l)
      (elsewhere : ∀ l', l' ≠ l → t'.get? l' = t.get? l') :
      AllOrNothing here p t target (.ok p, t')
  /-- The path leads to a device that keeps nothing of what it takes. -/
  | discarded (l : Location) (leads : t.ResolvesTo here p l)
      (sink : t.get? l = some (.device .sink)) : AllOrNothing here p t target (.ok p, t)
  /-- The path leads neither to a place for a file nor to a device. -/
  | notCreated (e : StorageError)
      (chain : e.chain = ["could not create " ++ Path.display p, e.cause.message])
      (noPlace : ∀ l, t.locate .create here p = .ok l →
        ¬t.TakesFile l ∧ ∀ kind, t.get? l ≠ some (.device kind)) :
      AllOrNothing here p t target (.error e, t)
  /-- The path leads to a device that is full. -/
  | notWritten (e : StorageError) (l : Location)
      (chain : e.chain = ["could not write " ++ Path.display p, AccessError.noSpace.message])
      (leads : t.ResolvesTo here p l) (full : t.get? l = some (.device .full)) :
      AllOrNothing here p t target (.error e, t)

/-- What storing at once comes to, with the tree that it leaves. -/
theorem allOrNothing_write (here : Location) (p : Path) (t : FileTree) (target : Target) :
    AllOrNothing here p t target
      (match t.write here p target.artifact.bytes with
        | .ok t' => (.ok p, t')
        | .error e => (.error e, t)) := by
  cases hw : t.write here p target.artifact.bytes with
  | ok t' =>
    obtain ⟨l, hl, ⟨ht, rfl⟩ | ⟨rfl, hdevice⟩⟩ := write_eq_ok_iff.1 hw
    · have hother : ∀ l', (t.place l (.file target.artifact.bytes)).get? l' =
          if l = l' then some (.file target.artifact.bytes) else t.get? l' :=
        get?_place t ht.ne_nil _
      have hholds : (t.place l (.file target.artifact.bytes)).get? l =
          some (.file target.artifact.bytes) := (hother l).trans (if_pos rfl)
      refine .stored _ l ?_ hholds ?_ fun l' hne => (hother l').trans (if_neg (Ne.symm hne))
      · have hf := (ht.onlyStores_place target.artifact.bytes).sameFrame
        exact resolvesTo_of_create hholds (hf.locate_create_iff.2 hl)
      · exact ht.imp_right fun ⟨contents, hc⟩ => ⟨contents, hc, resolvesTo_of_create hc hl⟩
    · have hsink := hdevice.resolve_right fun h => target.bytes_ne_nil h.2
      exact .discarded l (resolvesTo_of_create hsink hl) hsink
  | error e =>
    rcases write_eq_error_iff.1 hw with ⟨cause, rfl, hcause⟩ | ⟨rfl, -, l, hl, hfull⟩
    · refine .notCreated _ rfl fun l hl => ?_
      rcases hcause with hno | ⟨l', hl', hentry⟩
      · rw [hl] at hno
        cases hno
      obtain rfl := Except.ok.inj (hl.symm.trans hl')
      rcases hentry with ⟨hd, -⟩ | ⟨⟨link, hd⟩, -⟩
      · exact ⟨fun ht => ht.ne_directory hd, fun kind h => by rw [hd] at h; cases h⟩
      · exact ⟨fun ht => ht.ne_link link hd, fun kind h => by rw [hd] at h; cases h⟩
    · exact .notWritten _ l rfl (resolvesTo_of_create hfull hl) hfull

/-- **A Dockerfile is stored as a whole or not at all**, at the path of the directory with the
Dockerfile's name behind it, and however it is cut into the pieces that are written.  Storing it in one
step, as a run does, gives the same answer and leaves the same tree. -/
theorem store_allOrNothing (here : Location) (directory : Path) (t : FileTree) (target : Target)
    {pieces : List Bytes} (hp : pieces.flatten = Text.encode target.dockerfile) :
    let path := Path.join directory (Text.encode target.fileName)
    let stages := t.writeInStages here path pieces
    AllOrNothing here path t target stages ∧
      target.artifact.store t here directory = stages.1.map (fun _ => stages.2) ∧
      (execute here t [.store target.artifact directory]).tree = stages.2 ∧
      (execute here t [.store target.artifact directory]).failure =
        match stages.1 with
        | .ok _ => none
        | .error e => some (.storage target e) := by
  intro path stages
  have hstages : stages = match target.artifact.store t here directory with
      | .ok t' => (.ok path, t')
      | .error e => (.error e, t) := by
    rw [show stages = _ from writeInStages_eq t here path pieces, hp]
    rfl
  refine ⟨hstages ▸ allOrNothing_write here path t target, ?_⟩
  rw [hstages, execute]
  cases target.artifact.store t here directory <;> exact ⟨rfl, rfl, rfl⟩

/-- A tree where the path of a Dockerfile is a link to a link that dangles into a directory far away. -/
def danglingTree : FileTree :=
  ⟨[([[119]], .directory), ([[111], [119]], .directory), ([[102]], .directory),
    ([Text.encode "Dockerfile.ubuntu.20.04", [111], [119]], .link (Text.encode "../next")),
    ([Text.encode "next", [119]], .link (Text.encode "/f/new"))]⟩

/-- The Dockerfile at the end of both links, written in two pieces, is all that has changed. -/
theorem store_allOrNothing_dangling :
    let bytes := Text.encode loopedTarget.dockerfile
    [bytes.take 7, bytes.drop 7].flatten = bytes ∧
      AllOrNothing [[119]] (Path.join [111] (Text.encode loopedTarget.fileName)) danglingTree
        loopedTarget (danglingTree.writeInStages [[119]]
          (Path.join [111] (Text.encode loopedTarget.fileName)) [bytes.take 7, bytes.drop 7]) ∧
      danglingTree.locate .create [[119]] (Path.join [111] (Text.encode loopedTarget.fileName)) =
        .ok [Text.encode "new", [102]] := by
  intro bytes
  have hp : [bytes.take 7, bytes.drop 7].flatten = bytes := by simp
  exact ⟨hp, (store_allOrNothing [[119]] [111] danglingTree loopedTarget hp).1, by decide +kernel⟩

end Generation
end DockerMatrix
