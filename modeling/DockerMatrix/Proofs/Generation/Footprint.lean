/-
# What a run can change

A run changes nothing but the Dockerfiles of the targets that are asked for, in the directory that
its path leads to (`run_onlyGenerates`), whether it comes to its end or fails on the way.  A link that
bears the name of a Dockerfile would lead out of the directory, so there may be none
(`NoLinkedDockerfile`).
-/

import DockerMatrix.Proofs.Generation.Result
import DockerMatrix.Proofs.Target.FileName

namespace DockerMatrix

/-- Whether an entry is a link. -/
def Entry.isLink : Entry → Bool
  | link _ => true
  | _ => false

namespace FileTree

variable {t t' t'' : FileTree} {here l d : Location} {directory : Path} {target : Target}
  {into into' : Target → Location → Prop}

/-- No link bears the name of a target's Dockerfile. -/
def NoLinkedDockerfile (t : FileTree) : Prop :=
  ∀ target : Target, t.NeverLinks target.entryName

/-- The entries of a tree say whether a link bears the name of a Dockerfile. -/
theorem noLinkedDockerfile_of_entries
    (h : ∀ os ∈ OperatingSystem.all, ∀ hardware ∈ Hardware.all, ∀ target ∈ os.targets hardware,
      ∀ p ∈ t.entries, p.1.head? = some target.entryName → p.2.isLink = false) :
    t.NoLinkedDockerfile := by
  intro target parent link hlink
  rw [get?, if_neg (List.cons_ne_nil _ _)] at hlink
  have hentry := Target.forall_of_registered h target _ (Table.mem_of_get? hlink) rfl
  cases hentry

/-- Which names are linked is part of the frame. -/
theorem SameFrame.noLinkedDockerfile (h : t.SameFrame t') (hn : t.NoLinkedDockerfile) :
    t'.NoLinkedDockerfile := by
  intro target parent link hlink
  exact hn target parent link ((h.get?_eq_some_iff fun _ => Entry.noConfusion).1 hlink)

/-- What leads from one tree to the other is that Dockerfiles are stored: a location is as it was, or
it took a file, and is now where the Dockerfile of a target stands, in a directory that is allowed
for it. -/
def OnlyGenerates (into : Target → Location → Prop) (t t' : FileTree) : Prop :=
  ∀ l, t.get? l = t'.get? l ∨ t.TakesFile l ∧ ∃ target parent, into target parent ∧
    l = target.entryName :: parent ∧ t'.get? l = some (.file (Text.encode target.dockerfile))

namespace OnlyGenerates

/-- Nothing is generated where nothing changes. -/
theorem refl (into : Target → Location → Prop) (t : FileTree) : t.OnlyGenerates into t :=
  fun _ => Or.inl rfl

/-- Generating Dockerfiles only stores files. -/
theorem onlyStores (h : t.OnlyGenerates into t') : t.OnlyStores t' := fun l =>
  (h l).imp_right fun ⟨ht, target, _, _, _, hfile⟩ => ⟨ht, Text.encode target.dockerfile, hfile⟩

/-- The directories that are generated into may be described less exactly. -/
theorem mono (h : t.OnlyGenerates into t') (hinto : ∀ target d, into target d → into' target d) :
    t.OnlyGenerates into' t' := fun l =>
  (h l).imp_right fun ⟨ht, target, d, hd, hl⟩ => ⟨ht, target, d, hinto target d hd, hl⟩

/-- What is generated in two steps is generated. -/
theorem trans (h : t.OnlyGenerates into t') (h' : t'.OnlyGenerates into t'') :
    t.OnlyGenerates into t'' := by
  intro l
  rcases h' l with he | ⟨ht, hfile⟩
  · rw [← he]
    exact h l
  · exact Or.inr ⟨h.onlyStores.sameFrame.symm.takesFile ht, hfile⟩

/-- A Dockerfile is stored in a directory that is allowed for it. -/
theorem place (ht : t.TakesFile (target.entryName :: d)) (hd : into target d) :
    t.OnlyGenerates into
      (t.place (target.entryName :: d) (.file (Text.encode target.dockerfile))) := by
  intro l
  rw [get?_place t (List.cons_ne_nil _ _)]
  by_cases hl : target.entryName :: d = l
  · subst hl
    exact Or.inr ⟨ht, target, d, hd, rfl, if_pos rfl⟩
  · exact Or.inl (if_neg hl).symm

end OnlyGenerates
end FileTree

/-- The targets that a request asks for: those of its operating system and hardware, and of its
version if it has one. -/
structure Request.AsksFor (r : Request) (target : Target) : Prop where
  os : target.os = r.os
  hardware : target.hardware = r.hardware
  version : ∀ version, r.version = some version → target.version = version

namespace Generation

open FileTree

variable {here : Location} {directory : Path} {t t' tree : FileTree} {r : Request}
  {targets : List Target} {target : Target} {l : Location}

/-! ## Storing Dockerfiles in a directory -/

/-- **A Dockerfile can be created in a directory that a path leads to**, unless a link bears its name
there or its path is too long.  This is so in all trees of the frame. -/
theorem destinationIn_eq {d : Location} (hd : t.LeadsIn here directory d) (hf : t.SameFrame t')
    (hlink : ∀ link, t.get? (target.entryName :: d) ≠ some (.link link)) :
    destinationIn here directory t' target =
      if (target.artifact.destination directory).length < pathLimit then .ok (target.entryName :: d)
      else .error .nameTooLong :=
  hf.locate_create_join hd target.isEntryName target.entryName_fits.1 target.entryName_fits.2 hlink

/-- **A Dockerfile's destination lies in the directory** that the path leads to. -/
theorem exists_destination_eq (hn : t.NoLinkedDockerfile)
    (hl : destinationIn here directory t target = .ok l) :
    ∃ d, t.LeadsIn here directory d ∧ l = target.entryName :: d :=
  locate_create_join target.isEntryName (hn target) hl

/-- **The destinations of all Dockerfiles that are stored lie in one directory.** -/
theorem exists_directory_of_storeAll (hn : t.NoLinkedDockerfile)
    (hs : storeAll here directory t targets = .ok t') :
    targets = [] ∨ ∃ d, t.LeadsIn here directory d ∧
      ∀ target ∈ targets, destinationIn here directory t target = .ok (target.entryName :: d) := by
  have hdestination : ∀ target ∈ targets, ∃ d, t.LeadsIn here directory d ∧
      destinationIn here directory t target = .ok (target.entryName :: d) := by
    intro target hm
    obtain ⟨l, hl⟩ := storeAll_exists_destination hs hm
    obtain ⟨d, hd, rfl⟩ := exists_destination_eq hn hl
    exact ⟨d, hd, hl⟩
  cases targets with
  | nil => exact Or.inl rfl
  | cons first rest =>
    obtain ⟨d, hd, -⟩ := hdestination first (List.mem_cons_self ..)
    refine Or.inr ⟨d, hd, fun target hm => ?_⟩
    obtain ⟨d', hd', hl⟩ := hdestination target hm
    rwa [hd.unique hd']

/-- Storing changes only Dockerfiles in the directory, which may be looked up in any earlier tree. -/
theorem storeAll_onlyGenerates_of_sameFrame (hn : tree.NoLinkedDockerfile) (hf : tree.SameFrame t)
    (hs : storeAll here directory t targets = .ok t') :
    t.OnlyGenerates (fun target d => target ∈ targets ∧ tree.LeadsIn here directory d) t' := by
  induction targets generalizing t with
  | nil =>
    rw [storeAll, Except.ok.injEq] at hs
    exact hs ▸ OnlyGenerates.refl _ t
  | cons target rest ih =>
    obtain ⟨t₁, hfirst, hrest⟩ := storeAll_cons_eq_ok_iff.1 hs
    have hstored : t.OnlyGenerates
        (fun u d => u ∈ target :: rest ∧ tree.LeadsIn here directory d) t₁ := by
      obtain ⟨l, hl, rfl | ⟨ht, rfl⟩⟩ := store_spec hfirst
      · exact OnlyGenerates.refl _ t₁
      · obtain ⟨d, hd, rfl⟩ := exists_destination_eq hn ((destinationIn_iff hf).1 hl)
        exact OnlyGenerates.place ht ⟨List.mem_cons_self .., hd⟩
    have hf₁ := hf.trans hstored.onlyStores.sameFrame
    exact hstored.trans ((ih hf₁ hrest).mono fun u d h => ⟨List.mem_cons_of_mem _ h.1, h.2⟩)

/-! ## Runs -/

/-- A request asks for its targets. -/
theorem Request.asksFor_of_mem (ht : r.targets = .ok targets) (hm : target ∈ targets) :
    r.AsksFor target := by
  obtain ⟨hversions, hall⟩ := Request.targets_spec ht
  obtain ⟨hos, hhardware⟩ := hall target hm
  refine ⟨hos, hhardware, fun version hv => ?_⟩
  have hmap := List.mem_map_of_mem hm (f := Target.version)
  rw [hversions, hv] at hmap
  exact List.mem_singleton.1 hmap

/-- **What a run stores**: the Dockerfiles of some targets that are asked for, one after the other. -/
theorem exists_storeAll_run (here : Location) (tree : FileTree) (r : Request) :
    ∃ stored, (∀ target ∈ stored, r.AsksFor target) ∧
      storeAll here r.directory tree stored = .ok (run here tree r).tree := by
  have hc := run_course here tree r
  generalize run here tree r = o at hc ⊢
  cases hc with
  | refused => exact ⟨[], nofun, rfl⟩
  | printed => exact ⟨[], nofun, rfl⟩
  | stored targets tree' ht _ hs =>
    exact ⟨targets, fun _ hm => Request.asksFor_of_mem ht hm, hs⟩
  | broken before target after tree' _ ht _ hs =>
    exact ⟨before, fun _ hm => Request.asksFor_of_mem ht (List.mem_append_left _ hm), hs⟩

/-- **A run changes only Dockerfiles that are asked for, in the directory that its path leads to.** -/
theorem run_onlyGenerates (here : Location) (r : Request) (hn : tree.NoLinkedDockerfile) :
    tree.OnlyGenerates
      (fun target d => r.AsksFor target ∧ tree.LeadsIn here r.directory d)
      (run here tree r).tree := by
  obtain ⟨stored, hasked, hs⟩ := exists_storeAll_run here tree r
  have ho := storeAll_onlyGenerates_of_sameFrame hn (fun _ => Or.inl rfl) hs
  exact ho.mono fun target d ⟨hm, hd⟩ => ⟨hasked target hm, hd⟩

end Generation
end DockerMatrix
