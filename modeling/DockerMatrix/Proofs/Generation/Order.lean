/-
# The order of two runs

Two runs can be carried out in either order, if the path of each leads to a directory and no link
bears the name of a Dockerfile (`run_comm`).  The trees hold the same in the end, and each run says,
notes and fails with what it would have if the other one had not come first, also if one of them, or
both, fail on the way.

Where a run fails is decided by what no run changes: the length of a path, and the directories, links
and devices (`failsAlike_of_leadsIn`).  So every run comes to the same in all trees of the frame.  What
it places bears the name of its target, and as each Dockerfile has a name of its own, two runs that
place a file at one location place the same one there (`PlacesDockerfiles.eq_of_location_eq`).
-/

import DockerMatrix.Proofs.Generation.Effect

namespace DockerMatrix
namespace Generation

open FileTree

variable {here d : Location} {directory : Path} {t u tree : FileTree} {r : Request} {target : Target}
  {targets : List Target} {placed placed' : List (Location × Entry)}

/-! ## Where and how storing fails -/

/-- **Runs fail alike in all trees of a frame**, if their path leads to a directory. -/
theorem failsAlike_of_leadsIn (hn : tree.NoLinkedDockerfile) (hd : tree.LeadsIn here directory d) :
    FailsAlike here directory tree := by
  intro target e t u hf hf' he
  have hsame : destinationIn here directory u target = destinationIn here directory t target := by
    rw [destinationIn_eq hd hf (hn target d), destinationIn_eq hd hf' (hn target d)]
  exact (hf.symm.trans hf').write_eq_error hsame he

/-! ## What runs place -/

/-- Entries that are placed are Dockerfiles under their own names. -/
def PlacesDockerfiles (placed : List (Location × Entry)) : Prop :=
  ∀ q ∈ placed, ∃ (target : Target) (d : Location),
    q = (target.entryName :: d, .file (Text.encode target.dockerfile))

/-- Where no Dockerfile is linked, the contents of a target are placed under its name only. -/
theorem PlacesFor.placesDockerfiles (hn : tree.NoLinkedDockerfile)
    (h : PlacesFor here directory tree targets placed) : PlacesDockerfiles placed := by
  intro q hq
  obtain ⟨target, -, hl, hfile⟩ := h q hq
  obtain ⟨d, -, hname⟩ := exists_destination_eq hn hl
  exact ⟨target, d, Prod.ext hname hfile⟩

/-- Dockerfiles that are placed in two steps are Dockerfiles that are placed. -/
theorem PlacesDockerfiles.append (h : PlacesDockerfiles placed) (h' : PlacesDockerfiles placed') :
    PlacesDockerfiles (placed ++ placed') := fun q hq =>
  (List.mem_append.1 hq).elim (h q) (h' q)

/-- **Dockerfiles at one location are the same.** -/
theorem PlacesDockerfiles.eq_of_location_eq (h : PlacesDockerfiles placed) :
    ∀ p ∈ placed, ∀ q ∈ placed, p.1 = q.1 → p.2 = q.2 := by
  intro p hp q hq hl
  obtain ⟨target, d, rfl⟩ := h p hp
  obtain ⟨target', d', rfl⟩ := h q hq
  obtain ⟨hname, -⟩ := List.cons.inj hl
  rw [Target.entryName_injective hname]

/-! ## Runs -/

/-- Two outcomes that differ in their trees at most. -/
structure SameReport (o o' : Outcome) : Prop where
  messages : o.messages = o'.messages
  events : o.events = o'.events
  failure : o.failure = o'.failure
  printed : ∀ stream colored, o.printed stream colored = o'.printed stream colored

/-- A run reports the same in all trees of the frame, if it comes to the same. -/
theorem ComesTo.sameReport (h : ComesTo here tree r placed) (hf : tree.SameFrame u) :
    SameReport (run here u r) (run here tree r) := by
  rw [h u hf]
  exact ⟨rfl, rfl, rfl, fun _ _ => rfl⟩

/-- **Two runs can be carried out in either order.**  Each path leads to a directory, which may be the
same one, and no link bears the name of a Dockerfile. -/
theorem run_comm {hereA hereB : Location} {a b : Request} (hn : tree.NoLinkedDockerfile)
    (ha : ∃ d, tree.LeadsIn hereA a.directory d) (hb : ∃ d, tree.LeadsIn hereB b.directory d) :
    let aFirst := run hereA tree a
    let bSecond := run hereB aFirst.tree b
    let bFirst := run hereB tree b
    let aSecond := run hereA bFirst.tree a
    (∀ l, bSecond.tree.get? l = aSecond.tree.get? l) ∧
      SameReport aSecond aFirst ∧ SameReport bSecond bFirst := by
  intro aFirst bSecond bFirst aSecond
  obtain ⟨dA, hdA⟩ := ha
  obtain ⟨dB, hdB⟩ := hb
  obtain ⟨placedA, ⟨_, hpA⟩, hcA⟩ := exists_comesTo (Or.inr (failsAlike_of_leadsIn hn hdA))
  obtain ⟨placedB, ⟨_, hpB⟩, hcB⟩ := exists_comesTo (Or.inr (failsAlike_of_leadsIn hn hdB))
  have hfA : tree.SameFrame aFirst.tree := (run_onlyStores hereA tree a).sameFrame
  have hfB : tree.SameFrame bFirst.tree := (run_onlyStores hereB tree b).sameFrame
  have hsame := ((hpA.placesDockerfiles hn).append (hpB.placesDockerfiles hn)).eq_of_location_eq
  refine ⟨fun l => ?_, hcA.sameReport hfB, hcB.sameReport hfA⟩
  calc bSecond.tree.get? l
      = ((tree.placeAll placedA).placeAll placedB).get? l := by
        rw [hcB.tree_eq hfA, hcA.tree_eq (.refl tree)]
    _ = ((tree.placeAll placedB).placeAll placedA).get? l := get?_placeAll_comm hsame tree l
    _ = aSecond.tree.get? l := by rw [hcA.tree_eq hfB, hcB.tree_eq (.refl tree)]

/-- A tree where a directory has the name of a Dockerfile, and a link leads to the directory that it
is in. -/
def blockedTree : FileTree :=
  ⟨[([[119]], .directory), ([[108]], .link [119]),
    ([Text.encode "Dockerfile.ubuntu.20.04", [119]], .directory)]⟩

/-- The run that the directory blocks after its first Dockerfile, and the run that stores only that
one, in the same directory by another path. -/
theorem run_comm_blocked :
    let a : Request := ⟨.ubuntu, .gpu, none, Text.encode "/l/", false⟩
    let b : Request := ⟨.ubuntu, .gpu, some "18.04", Text.encode "../w", false⟩
    let aFirst := run [] blockedTree a
    let bSecond := run [[119]] aFirst.tree b
    let bFirst := run [[119]] blockedTree b
    let aSecond := run [] bFirst.tree a
    blockedTree.NoLinkedDockerfile ∧ (∃ d, blockedTree.LeadsIn [] a.directory d) ∧
      (∃ d, blockedTree.LeadsIn [[119]] b.directory d) ∧
      aFirst.failure ≠ none ∧ bFirst.failure = none ∧
      (∀ l, bSecond.tree.get? l = aSecond.tree.get? l) ∧
      SameReport aSecond aFirst ∧ SameReport bSecond bFirst := by
  intro a b aFirst bSecond bFirst aSecond
  have hn : blockedTree.NoLinkedDockerfile := noLinkedDockerfile_of_entries (by decide +kernel)
  have ha : ∃ d, blockedTree.LeadsIn [] a.directory d :=
    ⟨[[119]], by decide +kernel, by decide +kernel⟩
  have hb : ∃ d, blockedTree.LeadsIn [[119]] b.directory d :=
    ⟨[[119]], by decide +kernel, by decide +kernel⟩
  exact ⟨hn, ha, hb, by decide +kernel, by decide +kernel, run_comm hn ha hb⟩

end Generation
end DockerMatrix
