import GalaxyScenario.CommandLine.FileSystem
import Mathlib.Tactic.SplitIfs

/-! Writing to a file. A file system only grows by it: each node stays what it is, up to the bytes
of files, and keeps its names. So every path that leads somewhere leads there afterwards, through
whatever links and dots it goes, and the path that was written to leads to what was written. No
other file changes. -/
namespace GalaxyScenario.CommandLine

/-- What a node can be after a file has been written. A directory has its names and perhaps more. -/
inductive Node.Becomes : Node → Node → Prop
  | file (content content' : ByteArray) : Becomes (.file content) (.file content')
  | directory (parent : Nat) {names names' : List (String × Nat)}
      (h : ∀ name number, names.lookup name = some number → names'.lookup name = some number) :
      Becomes (.directory parent names) (.directory parent names')
  | device (device : Device) : Becomes (.device device) (.device device)
  | link (target : String) : Becomes (.link target) (.link target)

namespace Node

theorem Becomes.refl (node : Node) : node.Becomes node := by
  cases node with
  | file content => exact .file content content
  | directory parent names => exact .directory parent fun _ _ h => h
  | device device => exact .device device
  | link target => exact .link target

theorem Becomes.trans {a b c : Node} (hab : a.Becomes b) (hbc : b.Becomes c) : a.Becomes c := by
  cases hab with
  | file content => cases hbc with
    | file => exact .file content _
  | directory parent h => cases hbc with
    | directory _ h' =>
      exact .directory parent fun name number hname => h' name number (h name number hname)
  | device => exact hbc
  | link => exact hbc

end Node

namespace FileSystem

variable {fs before after : FileSystem} {access : Access} {number other : Nat}
  {path name : String} {content : ByteArray}

/-- A file system has grown into another one: what was there is there, up to the bytes of files. -/
structure Grows (before after : FileSystem) : Prop where
  node : ∀ (number : Nat) (node : Node), before.nodes[number]? = some node →
    ∃ node', after.nodes[number]? = some node' ∧ node.Becomes node'
  workingDirectory : after.workingDirectory = before.workingDirectory
  refusal : after.refusal = before.refusal
  limit : after.limit = before.limit

theorem Grows.refl (fs : FileSystem) : fs.Grows fs :=
  ⟨fun _ node h => ⟨node, h, .refl node⟩, rfl, rfl, rfl⟩

theorem Grows.trans {middle : FileSystem} (h : before.Grows middle) (h' : middle.Grows after) :
    before.Grows after where
  node number node hnode := by
    obtain ⟨node', hnode', hbecomes⟩ := h.node number node hnode
    obtain ⟨node'', hnode'', hbecomes'⟩ := h'.node number node' hnode'
    exact ⟨node'', hnode'', hbecomes.trans hbecomes'⟩
  workingDirectory := h'.workingDirectory.trans h.workingDirectory
  refusal := h'.refusal.trans h.refusal
  limit := h'.limit.trans h.limit

section Walk

/-- A name that leads on leads there as well when there are more names. -/
theorem Grows.lookup (h : before.Grows after) {names names' : List (String × Nat)}
    (hnames : ∀ name number, names.lookup name = some number → names'.lookup name = some number)
    {step : Step} (hstep : before.lookup names name = step) (hmissing : step ≠ .missing)
    (hfail : ∀ failure, step ≠ .fail failure) : after.lookup names' name = step := by
  unfold FileSystem.lookup at hstep ⊢
  cases hname : names.lookup name with
  | none => exact absurd (by simpa [hname] using hstep.symm) hmissing
  | some next =>
    rw [hnames name next hname]
    rw [hname] at hstep
    dsimp only at hstep ⊢
    cases hnode : before.nodes[next]? with
    | none => exact absurd (by simpa [hnode] using hstep.symm) (hfail .notFound)
    | some node =>
      obtain ⟨node', hnode', hbecomes⟩ := h.node next node hnode
      rw [hnode] at hstep
      rw [hnode', ← hstep]
      cases hbecomes <;> rfl

/-- A step that does not fail is made in a directory. Either it does not depend on what the
directory has, or it looks a name up there. -/
theorem step_cases {rest : List String} {step : Step}
    (h : fs.step access number name rest = step) (hfail : ∀ failure, step ≠ .fail failure) :
    ∃ parent names, fs.nodes[number]? = some (.directory parent names) ∧
      ((∃ next, step = .arrive next ∧ ∀ (fs' : FileSystem) names',
          fs'.nodes[number]? = some (.directory parent names') → fs'.refusal = fs.refusal →
            fs'.step .read number name rest = .arrive next) ∨
        step = fs.lookup names name ∧ ∀ (fs' : FileSystem) names',
          fs'.nodes[number]? = some (.directory parent names') → fs'.refusal = fs.refusal →
            fs'.step .read number name rest = fs'.lookup names' name) := by
  unfold FileSystem.step at h
  split at h
  · rename_i parent names hnode
    refine ⟨parent, names, hnode, ?_⟩
    by_cases hempty : name = ""
    · refine .inl ⟨number, by simpa [hempty] using h.symm, fun fs' names' hnode' _ => ?_⟩
      simp [FileSystem.step, hnode', hempty]
    rw [if_neg hempty] at h
    cases hrefusal : fs.refusal .search number with
    | some failure => exact absurd (by simpa [hrefusal] using h.symm) (hfail failure)
    | none =>
      rw [hrefusal] at h
      dsimp only at h
      by_cases hdot : name = "."
      · refine .inl ⟨number, by simpa [hdot] using h.symm, fun fs' names' hnode' hrefusal' => ?_⟩
        simp [FileSystem.step, hnode', hrefusal', hrefusal, hdot]
      by_cases hdots : name = ".."
      · refine .inl ⟨parent, by simpa [hdots] using h.symm, fun fs' names' hnode' hrefusal' => ?_⟩
        simp [FileSystem.step, hnode', hrefusal', hrefusal, hdots]
      rw [if_neg hdot, if_neg hdots] at h
      split_ifs at h with hslash hlong
      · exact absurd h.symm (hfail _)
      · exact absurd h.symm (hfail _)
      · refine .inr ⟨h.symm, fun fs' names' hnode' hrefusal' => ?_⟩
        simp [FileSystem.step, hnode', hempty, hrefusal', hrefusal, hdot, hdots, hlong]
  · exact absurd h.symm (hfail _)

/-- A step that leads on leads there as well once there is more, and when it is only for reading. -/
theorem Grows.step (h : before.Grows after) {rest : List String} {step : Step}
    (hstep : before.step access number name rest = step) (hmissing : step ≠ .missing)
    (hfail : ∀ failure, step ≠ .fail failure) : after.step .read number name rest = step := by
  obtain ⟨parent, names, hnode, hcases⟩ := step_cases hstep hfail
  obtain ⟨node', hnode', hbecomes⟩ := h.node number _ hnode
  cases hbecomes with
  | directory _ hnames =>
    rcases hcases with ⟨next, rfl, hnext⟩ | ⟨hlookup, hnext⟩
    · exact hnext after _ hnode' h.refusal
    · rw [hnext after _ hnode' h.refusal]
      exact h.lookup hnames hlookup.symm hmissing hfail

/-- The second place is where the first one is found in a file system: a known node under its
number, and a vacant name by what it leads to. -/
def Finds (fs : FileSystem) (place place' : Place) : Prop :=
  match place with
  | .known number => place' = .known number
  | .vacant directory name =>
    ∀ number, fs.step .read directory name [] = .arrive number → place' = .known number
  | .nowhere _ => True

theorem Grows.finds_walkUpTo (h : before.Grows after) {follow follow' : Nat → List String → Place}
    (hfollow : ∀ number names, after.Finds (follow number names) (follow' number names))
    (number : Nat) (names : List String) :
    after.Finds (before.walkUpTo access follow number names)
      (after.walkUpTo .read follow' number names) := by
  induction names generalizing number with
  | nil => rfl
  | cons name rest ih =>
    unfold walkUpTo
    cases hstep : before.step access number name rest with
    | arrive next =>
      rw [h.step hstep (by simp) (by simp)]
      exact ih next
    | follow target =>
      rw [h.step hstep (by simp) (by simp)]
      exact hfollow _ _
    | missing =>
      cases rest with
      | nil =>
        intro found hfound
        rw [hfound]
        rfl
      | cons next rest => trivial
    | fail failure => trivial

theorem Grows.finds_walk (h : before.Grows after) (links number : Nat) (names : List String) :
    after.Finds (before.walk access links number names) (after.walk .read links number names) := by
  induction links generalizing number names with
  | zero =>
    refine h.finds_walkUpTo (fun _ _ => ?_) number names
    trivial
  | succ links ih => exact h.finds_walkUpTo ih number names

/-- A path leads where it led before. -/
theorem Grows.finds_resolve (h : before.Grows after) (access : Access) (path : String) :
    after.Finds (before.resolve access path) (after.resolve .read path) := by
  unfold resolve
  split_ifs
  · trivial
  · trivial
  · trivial
  · rw [h.workingDirectory]
    exact h.finds_walk _ _ _

theorem Grows.resolve (h : before.Grows after)
    (hpath : before.resolve access path = .known number) :
    after.resolve .read path = .known number := by
  have hfinds := h.finds_resolve access path
  rwa [hpath] at hfinds

theorem step_of_walkUpTo_eq_vacant {follow : Nat → List String → Place} {directory : Nat}
    (hfollow : ∀ number names, follow number names = .vacant directory name →
      fs.step access directory name [] = .missing) {names : List String}
    (h : fs.walkUpTo access follow number names = .vacant directory name) :
    fs.step access directory name [] = .missing := by
  induction names generalizing number with
  | nil => cases h
  | cons first rest ih =>
    unfold walkUpTo at h
    cases hstep : fs.step access number first rest with
    | arrive next =>
      rw [hstep] at h
      exact ih h
    | follow target =>
      rw [hstep] at h
      exact hfollow _ _ h
    | missing =>
      rw [hstep] at h
      cases rest with
      | nil =>
        obtain ⟨rfl, rfl⟩ := Place.vacant.inj h
        exact hstep
      | cons next rest => cases h
    | fail failure =>
      rw [hstep] at h
      cases h

/-- A name is vacant only if its directory is there and does not have it. -/
theorem step_of_resolve_eq_vacant {directory : Nat}
    (h : fs.resolve access path = .vacant directory name) :
    fs.step access directory name [] = .missing := by
  have hwalk : ∀ links number names, fs.walk access links number names = .vacant directory name →
      fs.step access directory name [] = .missing := by
    intro links
    induction links with
    | zero =>
      intro number names h
      refine step_of_walkUpTo_eq_vacant (fun _ _ hnowhere => ?_) h
      cases hnowhere
    | succ links ih => exact fun _ _ h => step_of_walkUpTo_eq_vacant ih h
  unfold resolve at h
  split_ifs at h
  exact hwalk _ _ _ h

/-- A link leads to a new name only in a directory, which may be that of another link. -/
example :
    let fs : FileSystem :=
      { nodes := #[.directory 0
            [("a", 1), ("b", 2), ("gone", 3), ("under", 4), ("round", 5), ("map", 6)],
          .link "b", .link "./out", .link "none/out", .link "map/out", .link "round", .file .empty]
        workingDirectory := 0 }
    fs.resolve .write "a" = .vacant 0 "out" ∧ fs.resolve .write "gone" = .nowhere .notFound ∧
      fs.resolve .write "under" = .nowhere .notADirectory ∧
      fs.resolve .write "round" = .nowhere .tooManyLinks := by
  decide +kernel

end Walk

section Content

theorem content?_eq_some_iff :
    fs.content? number = some content ↔ fs.nodes[number]? = some (.file content) := by
  unfold content?
  split <;> simp_all

variable (hfile : (fs.content? number).isSome)

include hfile

theorem grows_setContent : fs.Grows (fs.setContent number content) where
  node found node hnode := by
    obtain ⟨old, hold⟩ := Option.isSome_iff_exists.mp hfile
    rw [content?_eq_some_iff] at hold
    by_cases heq : number = found
    · subst heq
      obtain rfl : node = .file old := Option.some.inj (hnode.symm.trans hold)
      have hlt := (Array.getElem?_eq_some_iff.mp hold).1
      exact ⟨.file content, by simp [setContent, hlt], .file old content⟩
    · exact ⟨node, by simpa [setContent, Array.getElem?_setIfInBounds, heq] using hnode, .refl node⟩
  workingDirectory := rfl
  refusal := rfl
  limit := rfl

theorem content?_setContent_self :
    (fs.setContent number content).content? number = some content := by
  obtain ⟨old, hold⟩ := Option.isSome_iff_exists.mp hfile
  have hlt := (Array.getElem?_eq_some_iff.mp (content?_eq_some_iff.mp hold)).1
  rw [content?_eq_some_iff]
  simp [setContent, hlt]

omit hfile in
theorem getElem?_setContent_of_ne (h : other ≠ number) :
    (fs.setContent number content).nodes[other]? = fs.nodes[other]? := by
  simp [setContent, h.symm]

end Content

/-- A node is as it was, or it is a directory with one more name, which leads to the node of that
number. -/
def Keeps (before after : FileSystem) (number other : Nat) : Prop :=
  after.nodes[other]? = before.nodes[other]? ∨ ∃ parent names name,
    before.nodes[other]? = some (.directory parent names) ∧ names.lookup name = none ∧
      after.nodes[other]? = some (.directory parent ((name, number) :: names))

section Create

variable {directory : Nat} (hmissing : fs.step access directory name [] = .missing)

include hmissing

/-- Where a name is missing there is a directory without it. -/
theorem exists_directory_of_step_eq_missing : ∃ parent names,
    fs.nodes[directory]? = some (.directory parent names) ∧ names.lookup name = none ∧
      ∀ (fs' : FileSystem) names', fs'.nodes[directory]? = some (.directory parent names') →
        fs'.refusal = fs.refusal → fs'.step .read directory name [] = fs'.lookup names' name := by
  obtain ⟨parent, names, hnode, hcases⟩ := step_cases hmissing (by simp)
  rcases hcases with ⟨next, hnext, -⟩ | ⟨hlookup, hnext⟩
  · cases hnext
  · refine ⟨parent, names, hnode, ?_, hnext⟩
    unfold FileSystem.lookup at hlookup
    split at hlookup
    · assumption
    · split at hlookup <;> cases hlookup

omit hmissing in
theorem getElem?_create {parent : Nat} {names : List (String × Nat)}
    (hdirectory : fs.nodes[directory]? = some (.directory parent names)) (number : Nat) :
    (fs.create directory name).nodes[number]? =
      if number = fs.nodes.size then some (.file .empty)
      else if number = directory then some (.directory parent ((name, fs.nodes.size) :: names))
      else fs.nodes[number]? := by
  have hlt := (Array.getElem?_eq_some_iff.mp hdirectory).1
  rw [create, hdirectory]
  dsimp only
  rw [Array.getElem?_push, Array.size_setIfInBounds]
  by_cases hown : number = directory
  · subst hown
    simp [hlt, Nat.ne_of_lt hlt]
  · simp [hown, Ne.symm hown]

theorem grows_create : fs.Grows (fs.create directory name) := by
  obtain ⟨parent, names, hdirectory, hnone, -⟩ := exists_directory_of_step_eq_missing hmissing
  have hrest : (fs.create directory name).workingDirectory = fs.workingDirectory ∧
      (fs.create directory name).refusal = fs.refusal ∧
      (fs.create directory name).limit = fs.limit := by
    rw [create, hdirectory]
    exact ⟨rfl, rfl, rfl⟩
  refine ⟨fun number node hnode => ?_, hrest.1, hrest.2.1, hrest.2.2⟩
  have hlt := (Array.getElem?_eq_some_iff.mp hnode).1
  rw [getElem?_create hdirectory, if_neg (Nat.ne_of_lt hlt)]
  by_cases heq : number = directory
  · subst heq
    obtain rfl := Option.some.inj (hnode.symm.trans hdirectory)
    refine ⟨_, if_pos rfl, .directory parent fun other found hother => ?_⟩
    have hne : (other == name) = false := by
      rw [beq_eq_false_iff_ne]
      rintro rfl
      simp [hnone] at hother
    simp [List.lookup_cons, hne, hother]
  · exact ⟨node, (if_neg heq).trans hnode, .refl node⟩

theorem content?_create_self :
    (fs.create directory name).content? fs.nodes.size = some .empty := by
  obtain ⟨parent, names, hdirectory, -, -⟩ := exists_directory_of_step_eq_missing hmissing
  rw [content?_eq_some_iff, getElem?_create hdirectory, if_pos rfl]

theorem keeps_create (h : other ≠ fs.nodes.size) :
    fs.Keeps (fs.create directory name) fs.nodes.size other := by
  obtain ⟨parent, names, hdirectory, hnone, -⟩ := exists_directory_of_step_eq_missing hmissing
  rw [Keeps, getElem?_create hdirectory, if_neg h]
  split_ifs with heq
  · exact .inr ⟨parent, names, name, heq ▸ hdirectory, hnone, rfl⟩
  · exact .inl rfl

/-- A name that was missing leads to the file that is made under it. -/
theorem step_create : (fs.create directory name).step .read directory name [] =
    .arrive fs.nodes.size := by
  obtain ⟨parent, names, hdirectory, -, hstep⟩ := exists_directory_of_step_eq_missing hmissing
  have hne := Nat.ne_of_lt (Array.getElem?_eq_some_iff.mp hdirectory).1
  rw [hstep _ ((name, fs.nodes.size) :: names) ?_ (grows_create hmissing).refusal]
  · unfold FileSystem.lookup
    rw [List.lookup_cons_self]
    dsimp only
    rw [getElem?_create hdirectory, if_pos rfl]
  · rw [getElem?_create hdirectory, if_neg hne, if_pos rfl]

end Create

section Write

/-- At most one file is different. Nothing else is, up to a new name for that file, and every path
that led somewhere leads there. -/
structure ChangesOnly (before after : FileSystem) (number : Nat) : Prop where
  node : ∀ other ≠ number, before.Keeps after number other
  path : ∀ path found, before.resolve .read path = .known found →
    after.resolve .read path = .known found

/-- A file is ready to be written to at a path. -/
structure Opens (before opened : FileSystem) (path : String) (number : Nat) : Prop where
  grows : before.Grows opened
  path : opened.resolve .read path = .known number
  file : (opened.content? number).isSome
  node : ∀ other ≠ number, before.Keeps opened number other

theorem ChangesOnly.content? (h : before.ChangesOnly after number) (hother : other ≠ number) :
    after.content? other = before.content? other := by
  unfold FileSystem.content?
  rcases h.node other hother with hsame | ⟨parent, names, name, hbefore, -, hafter⟩
  · rw [hsame]
  · rw [hbefore, hafter]

theorem openNode_eq_ok {handle : Handle} (h : fs.openNode access number = .ok handle) :
    (handle = .file number ∧ (fs.content? number).isSome) ∨
      ∃ device, handle = .device device := by
  unfold openNode at h
  dsimp only at h
  split at h
  · rename_i content hnode
    split at h
    · cases h
    · refine .inl ⟨(Except.ok.inj h).symm, ?_⟩
      rw [content?_eq_some_iff.mpr hnode]
      rfl
  · split at h
    · cases h
    · exact .inr ⟨_, (Except.ok.inj h).symm⟩
  · cases h
  · cases h

/-- Nothing but a file is made to open a path for writing, and then the path leads to that file. -/
theorem openToWrite_cases {handle : Handle} (h : before.openToWrite path = .ok (handle, after)) :
    (∃ number, handle = .file number ∧ before.Opens after path number) ∨
      (∃ device, handle = .device device) ∧ after = before := by
  unfold openToWrite at h
  cases hplace : before.resolve .write path with
  | nowhere failure =>
    rw [hplace] at h
    cases h
  | known number =>
    rw [hplace] at h
    dsimp only at h
    cases hopen : before.openNode .write number with
    | error failure =>
      rw [hopen] at h
      cases h
    | ok opened =>
      rw [hopen] at h
      obtain ⟨rfl, rfl⟩ := Prod.mk.inj (Except.ok.inj h)
      rcases openNode_eq_ok hopen with ⟨rfl, hfile⟩ | hdevice
      · exact .inl ⟨number, rfl, .refl before, (Grows.refl before).resolve hplace, hfile,
          fun _ _ => .inl rfl⟩
      · exact .inr ⟨hdevice, rfl⟩
  | vacant directory name =>
    rw [hplace] at h
    dsimp only at h
    split at h
    · cases h
    · obtain ⟨rfl, rfl⟩ := Prod.mk.inj (Except.ok.inj h)
      have hmissing := step_of_resolve_eq_vacant hplace
      have hgrows := grows_create hmissing
      have hfinds := hgrows.finds_resolve .write path
      rw [hplace] at hfinds
      refine .inl ⟨before.nodes.size, rfl, hgrows, hfinds _ (step_create hmissing), ?_, fun _ =>
        keeps_create hmissing⟩
      rw [content?_create_self hmissing]
      rfl

/-- What is written to a file is what its path leads to, as far as there is room for it. Without
room for all of it the writing fails. -/
theorem write_of_openToWrite {opened : FileSystem}
    (h : before.openToWrite path = .ok (.file number, opened)) (content : ByteArray) :
    before.ChangesOnly (before.write path content).2 number ∧
      (before.write path content).2.resolve .read path = .known number ∧
      match before.shortage number content.size with
      | none => (before.write path content).1 = .ok (.file number) ∧
          (before.write path content).2.content? number = some content
      | some (room, failure) => (before.write path content).1 = .error failure ∧
          (before.write path content).2.content? number = some (content.extract 0 room) := by
  obtain ⟨_, hhandle, hopens⟩ : ∃ other, Handle.file number = .file other ∧
      before.Opens opened path other := by
    rcases openToWrite_cases h with hfile | ⟨⟨device, hdevice⟩, -⟩
    · exact hfile
    · cases hdevice
  obtain rfl := Handle.file.inj hhandle
  have hshortage : opened.shortage number content.size = before.shortage number content.size := by
    rw [shortage, hopens.grows.limit, shortage]
  have hset : ∀ bytes, before.ChangesOnly (opened.setContent number bytes) number ∧
      (opened.setContent number bytes).resolve .read path = .known number ∧
      (opened.setContent number bytes).content? number = some bytes := by
    intro bytes
    have hset : opened.Grows (opened.setContent number bytes) := grows_setContent hopens.file
    refine ⟨⟨fun other hother => ?_, fun _ _ => (hopens.grows.trans hset).resolve⟩,
      hset.resolve hopens.path, content?_setContent_self hopens.file⟩
    rw [Keeps, getElem?_setContent_of_ne hother]
    exact hopens.node other hother
  unfold write
  rw [h]
  dsimp only
  rw [hshortage]
  cases before.shortage number content.size with
  | none => exact ⟨(hset _).1, (hset _).2.1, rfl, (hset _).2.2⟩
  | some most => exact ⟨(hset _).1, (hset _).2.1, rfl, (hset _).2.2⟩

end Write

end FileSystem
end GalaxyScenario.CommandLine
