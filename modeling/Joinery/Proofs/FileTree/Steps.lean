import Joinery.Proofs.FileTree.Likeness

/-
  What an operation on files can do to a tree. A directory is
  made, a file is made or written to, an entry is moved or
  taken away; otherwise the tree stays as it is. What these
  changes keep, an operation keeps that is made of them.

  Key definitions include:
    * `Disk.Maintains`

  Key theorems include:
    * `Disk.openFile_cases`
    * `Disk.create_cases`
    * `Disk.rename_cases`
    * `Disk.makeDirectory_maintains`
    * `Disk.writeTextAtomically_maintains`
-/

namespace Joinery

namespace Disk

open FileTree

variable {α β : Type}

------------------------------------------------------------
-- Single Operations
------------------------------------------------------------

/- To locate a path fails, or gives the place that the path leads to. -/
theorem locate_cases
    (path : Path)
    (tree : FileTree) :
    (∃ fault, locate path tree = (.error fault, tree)) ∨
      ∃ place, tree.locate path = .ok place ∧
        locate path tree = (.ok place, tree) := by
  rw [locate_apply]
  cases flaw? path with
  | some fault => exact Or.inl ⟨fault, rfl⟩
  | none =>
      cases tree.locate path with
      | ok place => exact Or.inr ⟨place, rfl, rfl⟩
      | error fault => exact Or.inl ⟨_, rfl⟩

theorem status?_tree
    (path : Path)
    (tree : FileTree) :
    (status? path tree).2 = tree := by
  rw [status?_apply]
  split
  · rfl
  · split <;> rfl

/- A directory is made, or nothing is. -/
theorem makeOne_cases
    (path : Path)
    (tree : FileTree) :
    (makeOne path tree).2 = tree ∨
      ∃ place, (makeOne path tree).2 = tree.put place .directory := by
  unfold makeOne
  rcases locate_cases path tree with ⟨fault, hFault⟩ | ⟨place, -, hPlace⟩
  · rw [Stateful.bind_of_error hFault]
    exact Or.inl rfl
  · rw [Stateful.bind_of_ok hPlace, Stateful.bind_apply,
      Stateful.get_apply]
    dsimp only
    split
    · exact Or.inl rfl
    · split
      · exact Or.inl rfl
      · split
        · exact Or.inl rfl
        · exact Or.inr ⟨place, rfl⟩

/-
  To open a file fails, or gives the number of the file that
  is there, or of a new one.
-/
theorem openFile_cases
    (path : Path)
    (tree : FileTree) :
    (∃ fault, openFile path tree = (.error fault, tree)) ∨
      ∃ place, tree.locate path = .ok place ∧
        ((∃ serial, tree.entry? place = some (.file serial) ∧
            openFile path tree = (.ok serial, tree)) ∨
          (tree.entry? place = none ∧
            openFile path tree =
              (.ok tree.freshSerial,
                (tree.put place (.file tree.freshSerial)).write
                  tree.freshSerial []))) := by
  unfold openFile
  rcases locate_cases path tree with
    ⟨fault, hFault⟩ | ⟨place, hLeads, hPlace⟩
  · rw [Stateful.bind_of_error hFault]
    exact Or.inl ⟨fault, rfl⟩
  · rw [Stateful.bind_of_ok hPlace, Stateful.bind_apply,
      Stateful.get_apply]
    dsimp only
    cases hEntry : tree.entry? place with
    | none =>
        dsimp only
        split
        · exact Or.inl ⟨_, rfl⟩
        · split
          · exact Or.inl ⟨_, rfl⟩
          · exact Or.inr ⟨place, hLeads, Or.inr ⟨hEntry, rfl⟩⟩
    | some entry =>
        cases entry with
        | directory => exact Or.inl ⟨_, rfl⟩
        | file serial =>
            dsimp only
            split
            · exact Or.inl ⟨_, rfl⟩
            · exact Or.inr
                ⟨place, hLeads, Or.inl ⟨serial, hEntry, rfl⟩⟩

/- A file is written to that is there, or that has been made. -/
theorem create_cases
    (path : Path)
    (bytes : List UInt8)
    (tree : FileTree) :
    (create path bytes tree).2 = tree ∨
      (∃ serial, (create path bytes tree).2 = tree.write serial bytes) ∨
      ∃ place,
        (create path bytes tree).2 =
          ((tree.put place (.file tree.freshSerial)).write
            tree.freshSerial []).write tree.freshSerial bytes := by
  unfold create
  rcases openFile_cases path tree with
    ⟨fault, hFault⟩ | ⟨place, -, ⟨serial, -, hOpen⟩ | ⟨-, hOpen⟩⟩
  · rw [Stateful.bind_of_error hFault]
    exact Or.inl rfl
  · rw [Stateful.bind_of_ok hOpen]
    exact Or.inr (Or.inl ⟨serial, rfl⟩)
  · rw [Stateful.bind_of_ok hOpen]
    exact Or.inr (Or.inr ⟨place, rfl⟩)

/- What is at the one place is moved to the other, or nothing is done. -/
theorem rename_cases
    (source target : Path)
    (tree : FileTree) :
    (rename source target tree).2 = tree ∨
      ∃ start finish entry, tree.locate source = .ok start ∧
        tree.locate target = .ok finish ∧
        tree.entry? start = some entry ∧
        (rename source target tree).2 =
          (tree.drop start).put finish entry := by
  unfold rename
  rw [Stateful.bind_apply, Stateful.get_apply]
  dsimp only
  cases hStart : tree.locate source with
  | error fault => exact Or.inl rfl
  | ok start =>
      cases hFinish : tree.locate target with
      | error fault => exact Or.inl rfl
      | ok finish =>
          dsimp only
          split
          · exact Or.inl rfl
          · cases hEntry : tree.entry? start with
            | none => exact Or.inl rfl
            | some entry =>
                dsimp only
                split
                · exact Or.inl rfl
                · split
                  · exact Or.inl rfl
                  · split
                    · exact Or.inl rfl
                    · exact Or.inr
                        ⟨start, finish, entry, rfl, rfl, hEntry, rfl⟩

/- The entry at a place is taken away, or nothing is. -/
theorem remove_cases
    (path : Path)
    (tree : FileTree) :
    (remove path tree).2 = tree ∨
      ∃ place, (remove path tree).2 = tree.drop place := by
  unfold remove
  rcases locate_cases path tree with ⟨fault, hFault⟩ | ⟨place, -, hPlace⟩
  · rw [Stateful.bind_of_error hFault]
    exact Or.inl rfl
  · rw [Stateful.bind_of_ok hPlace, Stateful.bind_apply,
      Stateful.get_apply]
    dsimp only
    split
    · exact Or.inl rfl
    · cases tree.entry? place with
      | none => exact Or.inl rfl
      | some entry =>
          cases entry with
          | directory => exact Or.inl rfl
          | file serial => exact Or.inr ⟨place, rfl⟩

------------------------------------------------------------
-- What Operations Keep
------------------------------------------------------------

/- A claim about the tree stays true, whether the operation fails or not. -/
def Maintains
    (claim : FileTree → Prop)
    (act : Disk α) : Prop :=
  ∀ tree, claim tree → claim (act tree).2

namespace Maintains

variable {claim : FileTree → Prop}

theorem throw
    (fault : Fault) :
    Maintains claim (throw fault : Disk α) :=
  fun _ hClaim => hClaim

theorem pure
    (a : α) :
    Maintains claim (Pure.pure a) :=
  fun _ hClaim => hClaim

theorem ofOutcome
    (outcome : Outcome α) :
    Maintains claim (liftM outcome) := by
  intro tree hClaim
  rw [Stateful.liftM_apply]
  exact hClaim

theorem bind
    {act : Disk α}
    {next : α → Disk β}
    (hAct : Maintains claim act)
    (hNext : ∀ a, Maintains claim (next a)) :
    Maintains claim (act >>= next) := by
  intro tree hClaim
  have hFirst := hAct tree hClaim
  rw [Stateful.bind_apply]
  revert hFirst
  rcases act tree with ⟨outcome, later⟩
  intro hFirst
  cases outcome with
  | ok a => exact hNext a later hFirst
  | error fault => exact hFirst

theorem tryCatch
    {act : Disk α}
    {handle : Fault → Disk α}
    (hAct : Maintains claim act)
    (hHandle : ∀ fault, Maintains claim (handle fault)) :
    Maintains claim (tryCatch act handle) := by
  intro tree hClaim
  have hFirst := hAct tree hClaim
  rw [Stateful.tryCatch_apply]
  revert hFirst
  rcases act tree with ⟨outcome, later⟩
  intro hFirst
  cases outcome with
  | ok a => exact hFirst
  | error fault => exact hHandle fault later hFirst

end Maintains

section Directories

variable {claim : FileTree → Prop}

theorem status?_maintains
    (path : Path) :
    Maintains claim (status? path) := by
  intro tree hClaim
  rw [status?_tree]
  exact hClaim

theorem makeOrAccept_maintains
    {path : Path}
    (hOne : Maintains claim (makeOne path)) :
    Maintains claim (makeOrAccept path) := by
  refine Maintains.tryCatch hOne fun fault => ?_
  refine Maintains.bind ?_ fun accepted => ?_
  · exact (status?_maintains path).bind fun _ => Maintains.pure _
  · split
    · exact Maintains.throw fault
    · exact Maintains.pure _

/- Only directories on the way to a directory are made. -/
theorem makeParents_maintains
    {root : String}
    {parts : List Text}
    (hOne :
      ∀ front, front <+: parts.reverse →
        Maintains claim (makeOne ⟨root, front⟩)) :
    Maintains claim (makeParents root parts) := by
  induction parts with
  | nil => exact makeOrAccept_maintains (hOne [] (List.nil_prefix ..))
  | cons part outer ih =>
      have hAccept :
          Maintains claim (makeOrAccept ⟨root, (part :: outer).reverse⟩) :=
        makeOrAccept_maintains (hOne _ (List.prefix_refl _))
      have hOuter :=
        ih fun front hFront => hOne front (by
          rw [List.reverse_cons]
          exact hFront.trans (List.prefix_append ..))
      rw [makeParents]
      refine Maintains.tryCatch hAccept fun fault => ?_
      split
      · exact hOuter.bind fun _ => hAccept
      · exact Maintains.throw fault

/- To make directories keeps what each new directory keeps. -/
theorem makeDirectory_maintains
    (hPut :
      ∀ tree place, claim tree → claim (tree.put place .directory))
    (path : Path) :
    Maintains claim (makeDirectory path) := by
  refine makeParents_maintains fun front _ => ?_
  intro tree hClaim
  rcases makeOne_cases ⟨path.root, front⟩ tree with
    hSame | ⟨place, hMade⟩
  · rw [hSame]
    exact hClaim
  · rw [hMade]
    exact hPut tree place hClaim

end Directories

/-
  To write a text in one piece keeps what is kept when a
  directory is made, a file is made and written to, a file is
  put in the place of another one, and one is taken away.
-/
theorem writeTextAtomically_maintains
    {claim : FileTree → Prop}
    {path : Path}
    (hPut : ∀ tree place, claim tree → claim (tree.put place .directory))
    (hCreate :
      ∀ temporary bytes, Disk.temporary path temporarySuffix = .ok temporary →
        Maintains claim (create temporary bytes))
    (hRename :
      ∀ temporary, Disk.temporary path temporarySuffix = .ok temporary →
        Maintains claim (rename temporary path))
    (hDrop : ∀ tree place, claim tree → claim (tree.drop place))
    (text : Text)
    (encoding : String) :
    Maintains claim (writeTextAtomically path text encoding) := by
  unfold writeTextAtomically
  cases Encoding.encode? encoding text with
  | none => exact Maintains.throw _
  | some bytes =>
      unfold writeAtomically
      refine (makeDirectory_maintains hPut _).bind fun _ => ?_
      cases hTemporary : Disk.temporary path temporarySuffix with
      | error fault =>
          intro tree hClaim
          rw [Stateful.bind_apply, Stateful.liftM_apply]
          exact hClaim
      | ok temporary =>
          intro tree hClaim
          rw [Stateful.bind_of_ok (Stateful.liftM_apply _ _)]
          refine Maintains.tryCatch ?_ (fun fault => ?_) tree hClaim
          · exact (hCreate temporary bytes hTemporary).bind fun _ =>
              hRename temporary hTemporary
          · split
            · unfold undo
              refine Maintains.bind ?_ fun found => ?_
              · exact (status?_maintains _).bind fun _ => Maintains.pure _
              · split
                · refine Maintains.bind ?_ fun _ => Maintains.throw _
                  intro tree hClaim
                  rcases remove_cases temporary tree with
                    hSame | ⟨place, hGone⟩
                  · rw [hSame]
                    exact hClaim
                  · rw [hGone]
                    exact hDrop tree place hClaim
                · exact Maintains.throw _
            · exact Maintains.throw fault

end Disk

end Joinery
