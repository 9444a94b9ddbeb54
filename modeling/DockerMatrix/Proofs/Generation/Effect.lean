/-
# A run as an effect on trees

In the trees of one frame a run says the same, fails for the same reason, and places the same entries
at the same locations, whatever the files in them hold and whichever Dockerfiles are there already.
A run that succeeds always comes to the same in them (`exists_comesTo`); of a run that fails it has
to be known that runs fail alike there (`FailsAlike`).

So a run that has succeeded can be repeated, and changes nothing more (`run_again_eq`).  This holds
where destinations are links as well, into each other or to places where nothing was before the first
run.
-/

import DockerMatrix.Proofs.FileTree.Placing
import DockerMatrix.Proofs.Generation.Footprint

namespace DockerMatrix
namespace Generation

open FileTree

variable {here : Location} {directory : Path} {t t' u tree : FileTree} {r : Request}
  {target : Target} {targets : List Target} {placed : List (Location × Entry)}

/-- Entries that are placed for targets: each is the Dockerfile of one of them, at its destination. -/
def PlacesFor (here : Location) (directory : Path) (t : FileTree) (targets : List Target)
    (placed : List (Location × Entry)) : Prop :=
  ∀ q ∈ placed, ∃ target ∈ targets, destinationIn here directory t target = .ok q.1 ∧
    q.2 = .file (Text.encode target.dockerfile)

/-! ## Storing Dockerfiles -/

/-- Storing one Dockerfile places its contents where it resolves to, in every tree of the same
frame. -/
theorem exists_placeAll_of_store (hs : target.artifact.store t here directory = .ok t') :
    ∃ placed, PlacesFor here directory t [target] placed ∧
      ∀ u, t.SameFrame u → target.artifact.store u here directory = .ok (u.placeAll placed) := by
  obtain ⟨placed, hplaced, hu⟩ := exists_placeAll_of_write hs
  exact ⟨placed, fun q hq => ⟨target, List.mem_singleton_self _, hplaced q hq⟩, hu⟩

/-- **Storing Dockerfiles places the same entries in every tree of the frame**, if it succeeds. -/
theorem exists_placeAll_of_storeAll (hs : storeAll here directory t targets = .ok t') :
    ∃ placed, PlacesFor here directory t targets placed ∧
      ∀ u, t.SameFrame u → storeAll here directory u targets = .ok (u.placeAll placed) := by
  induction targets generalizing t with
  | nil => exact ⟨[], nofun, fun u _ => rfl⟩
  | cons target rest ih =>
    obtain ⟨t₁, hfirst, hrest⟩ := storeAll_cons_eq_ok_iff.1 hs
    obtain ⟨first, hp₁, hu₁⟩ := exists_placeAll_of_store hfirst
    obtain ⟨others, hp₂, hu₂⟩ := ih hrest
    have hf₁ : t.SameFrame t₁ := (store_onlyStores hfirst).sameFrame
    refine ⟨first ++ others, fun q hq => ?_, fun u hf => ?_⟩
    · rcases List.mem_append.1 hq with hq | hq
      · obtain ⟨target', hm, hq⟩ := hp₁ q hq
        obtain rfl := List.mem_singleton.1 hm
        exact ⟨target', List.mem_cons_self .., hq⟩
      · obtain ⟨target', hm, hl, hq⟩ := hp₂ q hq
        exact ⟨target', List.mem_cons_of_mem _ hm, (destinationIn_iff hf₁).1 hl, hq⟩
    · have hstored := hu₁ u hf
      have hf₂ : t₁.SameFrame (u.placeAll first) :=
        hf₁.symm.trans (hf.trans (store_onlyStores hstored).sameFrame)
      rw [placeAll_append]
      exact storeAll_cons_eq_ok_iff.2 ⟨_, hstored, hu₂ _ hf₂⟩

/-! ## Runs -/

/-- A run comes to the same in all trees of a frame: it places these entries, and all else about its
outcome is as in the one tree. -/
def ComesTo (here : Location) (tree : FileTree) (r : Request) (placed : List (Location × Entry)) :
    Prop :=
  ∀ u, tree.SameFrame u → run here u r = { run here tree r with tree := u.placeAll placed }

/-- What cannot be stored in one tree of a frame cannot be stored in any, for the same reason. -/
def FailsAlike (here : Location) (directory : Path) (tree : FileTree) : Prop :=
  ∀ (target : Target) (e : StorageError) (t u : FileTree), tree.SameFrame t → tree.SameFrame u →
    target.artifact.store t here directory = .error e →
      target.artifact.store u here directory = .error e

/-- **A run comes to the same in all trees of a frame**, if it succeeds, or if runs fail alike in
them.  What it places are Dockerfiles at their destinations. -/
theorem exists_comesTo
    (h : (run here tree r).failure = none ∨ FailsAlike here r.directory tree) :
    ∃ placed, (∃ targets, PlacesFor here r.directory tree targets placed) ∧
      ComesTo here tree r placed := by
  unfold ComesTo
  have hc := run_course here tree r
  generalize run here tree r = o at hc h ⊢
  cases hc with
  | refused error ht => exact ⟨[], ⟨[], nofun⟩, fun u _ => run_refused ht⟩
  | printed targets ht hdry => exact ⟨[], ⟨[], nofun⟩, fun u _ => run_printed ht hdry⟩
  | stored targets tree' ht hdry hs =>
    obtain ⟨placed, hp, hu⟩ := exists_placeAll_of_storeAll hs
    exact ⟨placed, ⟨targets, hp⟩, fun u hf => run_stored ht hdry (hu u hf)⟩
  | broken before target after tree' error ht hdry hs he =>
    have halike := h.resolve_left (Option.some_ne_none _)
    obtain ⟨placed, hp, hu⟩ := exists_placeAll_of_storeAll hs
    refine ⟨placed, ⟨before, hp⟩, fun u hf => run_broken ht hdry (hu u hf) ?_⟩
    have hf' : tree.SameFrame (u.placeAll placed) :=
      hf.trans (storeAll_onlyStores (hu u hf)).sameFrame
    exact halike target error tree' _ (storeAll_onlyStores hs).sameFrame hf' he

/-- A run makes the same changes in every tree of the same frame. -/
theorem ComesTo.tree_eq (h : ComesTo here tree r placed) (hf : tree.SameFrame u) :
    (run here u r).tree = u.placeAll placed := by
  rw [h u hf]

/-- A run only stores. -/
theorem run_onlyStores (here : Location) (tree : FileTree) (r : Request) :
    tree.OnlyStores (run here tree r).tree := by
  obtain ⟨_, -, hs⟩ := exists_storeAll_run here tree r
  exact storeAll_onlyStores hs

/-- **A run that has succeeded can be repeated**: it succeeds again, says the same, and leaves the
tree exactly as it was.  The two outcomes are the same in every part. -/
theorem run_again_eq (hok : (run here tree r).failure = none) :
    run here (run here tree r).tree r = run here tree r := by
  obtain ⟨placed, -, hplaced⟩ := exists_comesTo (Or.inl hok)
  have htree : (run here tree r).tree = tree.placeAll placed := hplaced.tree_eq (.refl tree)
  rw [hplaced _ (run_onlyStores here tree r).sameFrame, htree, placeAll_placeAll, ← htree]

/-- The run in the tree where both paths are links to one place, repeated. -/
theorem run_again_eq_aliased :
    (run [[119]] aliasedTree aliasedRequest).failure = none ∧
      run [[119]] (run [[119]] aliasedTree aliasedRequest).tree aliasedRequest =
        run [[119]] aliasedTree aliasedRequest ∧
      (run [[119]] aliasedTree aliasedRequest).tree ≠ aliasedTree := by
  have hok : (run [[119]] aliasedTree aliasedRequest).failure = none := by decide +kernel
  exact ⟨hok, run_again_eq hok, by decide +kernel⟩

end Generation
end DockerMatrix
