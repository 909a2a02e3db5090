import Joinery.FileTree.Atomic
import Joinery.Proofs.FileTree.Contents
import Joinery.Proofs.Stateful

/-
  What becomes of an operation on files depends on which
  files and directories there are, and not on what is in the
  files. So it is the same in all trees of one shape. If the
  trees have the same files as well, with the same contents
  but for one file, so have the trees that are left.

  Key definitions include:
    * `FileTree.Likeness`
    * `Disk.SameOutcome`
    * `Disk.Like`

  Key theorems include:
    * `Disk.Like.bind`
    * `Disk.Like.tryCatch`
    * `Disk.makeDirectory_like`
    * `Disk.writeTextAtomically_like`
-/

namespace Joinery

------------------------------------------------------------
-- Likenesses
------------------------------------------------------------

/- Both are directories, or files whose numbers are related. -/
inductive Entry.Matches
    (serials : Nat → Nat → Prop) : Entry → Entry → Prop where
  | directory : Matches serials .directory .directory
  | file
      {serial number : Nat}
      (hSerials : serials serial number) :
      Matches serials (.file serial) (.file number)

theorem Entry.Matches.isDirectory_eq
    {serials : Nat → Nat → Prop}
    {entry other : Entry}
    (hMatches : Matches serials entry other) :
    entry.isDirectory = other.isDirectory := by
  cases hMatches <;> rfl

namespace FileTree

/-
  A relation of trees of one shape, and of the numbers of
  their files, that lasts while the same is done to both.
-/
structure Likeness where
  trees : FileTree → FileTree → Prop
  serials : Nat → Nat → Prop
  alike :
    ∀ {tree other}, trees tree other → Alike tree other
  entry :
    ∀ {tree other place serial number}, trees tree other →
      tree.entry? place = some (.file serial) →
      other.entry? place = some (.file number) → serials serial number
  fresh :
    ∀ {tree other}, trees tree other →
      serials tree.freshSerial other.freshSerial
  put :
    ∀ {tree other entry second}, trees tree other →
      (place : Location) → Entry.Matches serials entry second →
      trees (tree.put place entry) (other.put place second)
  drop :
    ∀ {tree other}, trees tree other →
      (place : Location) → trees (tree.drop place) (other.drop place)
  write :
    ∀ {tree other serial number}, trees tree other →
      serials serial number → (bytes : List UInt8) →
      trees (tree.write serial bytes) (other.write number bytes)

namespace Likeness

/- Trees of one shape stay trees of one shape. -/
def shape : Likeness where
  trees := Alike
  serials := fun _ _ => True
  alike := id
  entry := fun _ _ _ => trivial
  fresh := fun _ => trivial
  put := fun hAlike place hMatches =>
    hAlike.put place hMatches.isDirectory_eq
  drop := fun hAlike place => hAlike.drop place
  write := fun hAlike _ bytes => hAlike.write _ _ bytes bytes

/- Trees that are the same but for one file stay so. -/
def sameBut
    (log? : Option Nat) : Likeness where
  trees := SameBut log?
  serials := (· = ·)
  alike := SameBut.alike
  entry := by
    intro tree other place serial number hSame hFirst hSecond
    rw [hSame.entry, hSecond] at hFirst
    cases hFirst
    rfl
  fresh := SameBut.fresh
  put := by
    rintro tree other entry second hSame place hMatches
    cases hMatches with
    | directory => exact hSame.put place .directory
    | file hSerials =>
        cases hSerials
        exact hSame.put place _
  drop := SameBut.drop
  write := by
    rintro tree other serial _ hSame rfl bytes
    exact hSame.write serial bytes

end Likeness

end FileTree

------------------------------------------------------------
-- Operations Alike
------------------------------------------------------------

namespace Disk

open FileTree

variable {α β : Type}
variable {likeness : Likeness}

/- Both succeed with related results, or fail with the same fault. -/
def SameOutcome
    (related : α → α → Prop) :
    Outcome α → Outcome α → Prop
  | .ok a, .ok b => related a b
  | .error fault, .error other => fault = other
  | _, _ => False

/-
  Two operations do the same in trees that are like each
  other, up to a relation of their results, and leave trees
  that are like each other.
-/
def Like
    (likeness : Likeness)
    (related : α → α → Prop)
    (act other : Disk α) : Prop :=
  ∀ tree second, likeness.trees tree second →
    SameOutcome related (act tree).1 (other second).1 ∧
      likeness.trees (act tree).2 (other second).2

namespace Like

variable {related : α → α → Prop}
variable {others : β → β → Prop}

theorem pure
    {a b : α}
    (hRelated : related a b) :
    Like likeness related (Pure.pure a) (Pure.pure b) := by
  intro tree second hTrees
  exact ⟨hRelated, hTrees⟩

theorem throw
    (fault : Fault) :
    Like likeness related (throw fault) (throw fault) := by
  intro tree second hTrees
  exact ⟨rfl, hTrees⟩

theorem ofOutcome
    (outcome : Outcome α)
    (hRelated : ∀ a, related a a) :
    Like likeness related (liftM outcome) (liftM outcome) := by
  intro tree second hTrees
  cases outcome with
  | ok a => exact ⟨hRelated a, hTrees⟩
  | error fault => exact ⟨rfl, hTrees⟩

theorem get :
    Like likeness likeness.trees get get := by
  intro tree second hTrees
  exact ⟨hTrees, hTrees⟩

theorem set
    {tree second : FileTree}
    (hTrees : likeness.trees tree second) :
    Like likeness (fun _ _ => True) (set tree : Disk PUnit) (set second) := by
  intro _ _ _
  exact ⟨trivial, hTrees⟩

/- One operation after the other. -/
theorem bind
    {act other : Disk α}
    {next later : α → Disk β}
    (hAct : Like likeness related act other)
    (hNext : ∀ a b, related a b → Like likeness others (next a) (later b)) :
    Like likeness others (act >>= next) (other >>= later) := by
  intro tree second hTrees
  have hFirst := hAct tree second hTrees
  rw [Stateful.bind_apply, Stateful.bind_apply]
  revert hFirst
  rcases act tree with ⟨outcome, after⟩
  rcases other second with ⟨result, rest⟩
  rintro ⟨hSame, hAfter⟩
  cases outcome with
  | ok a =>
      cases result with
      | ok b => exact hNext a b hSame after rest hAfter
      | error fault => cases hSame
  | error fault =>
      cases result with
      | ok b => cases hSame
      | error cause => exact ⟨hSame, hAfter⟩

/- A fault is handled alike. -/
theorem tryCatch
    {act other : Disk α}
    {handle second : Fault → Disk α}
    (hAct : Like likeness related act other)
    (hHandle : ∀ fault, Like likeness related (handle fault) (second fault)) :
    Like likeness related (tryCatch act handle) (tryCatch other second) := by
  intro tree third hTrees
  have hFirst := hAct tree third hTrees
  rw [Stateful.tryCatch_apply, Stateful.tryCatch_apply]
  revert hFirst
  rcases act tree with ⟨outcome, after⟩
  rcases other third with ⟨result, rest⟩
  rintro ⟨hSame, hAfter⟩
  cases outcome with
  | ok a =>
      cases result with
      | ok b => exact ⟨hSame, hAfter⟩
      | error fault => cases hSame
  | error fault =>
      cases result with
      | ok b => cases hSame
      | error cause =>
          cases hSame
          exact hHandle fault after rest hAfter

/- The same question is answered alike. -/
theorem ite
    {p : Prop}
    [Decidable p]
    {first second third fourth : Disk α}
    (hThen : Like likeness related first second)
    (hElse : Like likeness related third fourth) :
    Like likeness related (if p then first else third)
      (if p then second else fourth) := by
  by_cases hHolds : p
  · rw [if_pos hHolds, if_pos hHolds]
    exact hThen
  · rw [if_neg hHolds, if_neg hHolds]
    exact hElse

theorem refuse
    (path : Path)
    (fault : FileFault) :
    Like likeness related (Disk.refuse path fault) (Disk.refuse path fault) :=
  Like.throw _

/- What would follow a refusal does not matter. -/
theorem refuseThen
    (path : Path)
    (fault : FileFault)
    (next later : PUnit → Disk β) :
    Like likeness others (Disk.refuse path fault >>= next)
      (Disk.refuse path fault >>= later) :=
  Like.bind
    (Like.refuse path fault : Like likeness (fun _ _ => False) _ _)
    fun _ _ hNever => hNever.elim

/- What is done in a tree is done alike in the trees that are like it. -/
theorem getThen
    {next later : FileTree → Disk β}
    (hNext :
      ∀ tree second, likeness.trees tree second →
        Like likeness others (next tree) (later second)) :
    Like likeness others (MonadState.get >>= next) (MonadState.get >>= later) :=
  Like.bind Like.get hNext

end Like

------------------------------------------------------------
-- Operations On Paths
------------------------------------------------------------

/- To locate a path looks at its text, and then at the tree. -/
theorem locate_apply
    (path : Path)
    (tree : FileTree) :
    locate path tree =
      match flaw? path with
      | some fault => (.error fault, tree)
      | none =>
          match tree.locate path with
          | .ok place => (.ok place, tree)
          | .error fault => (.error (.file fault path.text none), tree) := by
  unfold locate
  cases flaw? path with
  | some fault => rfl
  | none =>
      cases hPlace : tree.locate path with
      | ok place => simp [Stateful.bind_apply, hPlace]
      | error fault => simp [Stateful.bind_apply, hPlace, refuse]

theorem locate_like
    (path : Path) :
    Like likeness (· = ·) (locate path) (locate path) := by
  intro tree second hTrees
  rw [locate_apply, locate_apply, (likeness.alike hTrees).locate path]
  cases flaw? path with
  | some fault => exact ⟨rfl, hTrees⟩
  | none =>
      cases second.locate path with
      | ok place => exact ⟨rfl, hTrees⟩
      | error fault => exact ⟨rfl, hTrees⟩

/- What a path leads to depends on its text, and then on the tree. -/
theorem status?_apply
    (path : Path)
    (tree : FileTree) :
    status? path tree =
      if (flaw? path).isSome then (.ok none, tree)
      else
        match tree.locate path with
        | .ok place => (.ok (tree.entry? place), tree)
        | .error .nameTooLong =>
            (.error (.file .nameTooLong path.text none), tree)
        | .error _ => (.ok none, tree) := by
  unfold status?
  cases (flaw? path).isSome with
  | true => rfl
  | false =>
      cases hPlace : tree.locate path with
      | ok place => simp [Stateful.bind_apply, hPlace]
      | error fault =>
          cases fault <;> simp [Stateful.bind_apply, hPlace, refuse]

theorem status?_like
    (path : Path) :
    Like likeness
      (fun entry second =>
        entry.map Entry.isDirectory = second.map Entry.isDirectory)
      (status? path) (status? path) := by
  intro tree second hTrees
  have hAlike := likeness.alike hTrees
  rw [status?_apply, status?_apply, hAlike.locate path]
  cases (flaw? path).isSome with
  | true => exact ⟨rfl, hTrees⟩
  | false =>
      cases second.locate path with
      | ok place => exact ⟨hAlike.kind place, hTrees⟩
      | error fault => cases fault <;> exact ⟨rfl, hTrees⟩

theorem exists?_like
    (path : Path) :
    Like likeness (· = ·) (exists? path) (exists? path) := by
  unfold exists?
  apply Like.bind (status?_like path)
  intro entry second hKind
  apply Like.pure
  rw [← Option.isSome_map, hKind, Option.isSome_map]

theorem isDirectory?_like
    (path : Path) :
    Like likeness (· = ·) (isDirectory? path) (isDirectory? path) := by
  unfold isDirectory?
  apply Like.bind (status?_like path)
  intro entry second hKind
  apply Like.pure
  cases entry with
  | none =>
      cases second with
      | none => rfl
      | some other => cases hKind
  | some entry =>
      cases second with
      | none => cases hKind
      | some other => cases entry <;> cases other <;> first | rfl | cases hKind

------------------------------------------------------------
-- Directories
------------------------------------------------------------

theorem makeOne_like
    (path : Path) :
    Like likeness (fun _ _ => True) (makeOne path) (makeOne path) := by
  unfold makeOne
  apply Like.bind (locate_like path)
  rintro place _ rfl
  apply Like.getThen
  intro tree second hTrees
  have hAlike := likeness.alike hTrees
  simp only [hAlike.isSome_eq place, ne_eq,
    hAlike.isDirectory_iff place.dropLast, hAlike.isReadOnly_eq place]
  exact Like.ite (Like.refuse path .exists)
    (Like.ite (Like.refuse path .missing)
      (Like.ite (Like.refuse path .readOnly)
        (Like.set (likeness.put hTrees place .directory))))

theorem makeOrAccept_like
    (path : Path) :
    Like likeness (fun _ _ => True) (makeOrAccept path) (makeOrAccept path) := by
  unfold makeOrAccept
  apply Like.tryCatch (makeOne_like path)
  intro fault
  apply Like.bind (isDirectory?_like path)
  rintro accepted _ rfl
  exact Like.ite (Like.throw fault) (Like.pure trivial)

theorem makeParents_like
    (root : String)
    (parts : List Text) :
    Like likeness (fun _ _ => True) (makeParents root parts)
      (makeParents root parts) := by
  induction parts with
  | nil => exact makeOrAccept_like _
  | cons part outer ih =>
      rw [makeParents]
      apply Like.tryCatch (makeOrAccept_like _)
      intro fault
      split
      · exact Like.bind ih fun _ _ _ => makeOrAccept_like _
      · exact Like.throw fault

theorem makeDirectory_like
    (path : Path) :
    Like likeness (fun _ _ => True) (makeDirectory path) (makeDirectory path) :=
  makeParents_like path.root _

------------------------------------------------------------
-- Files
------------------------------------------------------------

theorem openFile_like
    (path : Path) :
    Like likeness likeness.serials (openFile path) (openFile path) := by
  unfold openFile
  apply Like.bind (locate_like path)
  rintro place _ rfl
  apply Like.getThen
  intro tree second hTrees
  have hAlike := likeness.alike hTrees
  rcases hAlike.cases place with
    ⟨hFirst, hSecond⟩ | ⟨hFirst, hSecond⟩ |
      ⟨serial, number, hFirst, hSecond⟩
  · rw [hFirst, hSecond]
    simp only [ne_eq, hAlike.isDirectory_iff place.dropLast,
      hAlike.isReadOnly_eq place]
    have hFresh := likeness.fresh hTrees
    have hFile :
        likeness.trees
          ((tree.put place (.file tree.freshSerial)).write
            tree.freshSerial [])
          ((second.put place (.file second.freshSerial)).write
            second.freshSerial []) :=
      likeness.write (likeness.put hTrees place (.file hFresh)) hFresh []
    refine Like.ite (Like.refuseThen path .missing _ _) ?_
    refine Like.ite (Like.refuseThen path .readOnly _ _) ?_
    exact Like.bind (Like.set hFile) fun _ _ _ => Like.pure hFresh
  · rw [hFirst, hSecond]
    exact Like.refuse path .isDirectory
  · rw [hFirst, hSecond]
    simp only [hAlike.isReadOnly_eq place]
    exact Like.ite (Like.refuseThen path .readOnly _ _)
      (Like.pure (likeness.entry hTrees hFirst hSecond))

theorem create_like
    (path : Path)
    (bytes : List UInt8) :
    Like likeness (fun _ _ => True) (create path bytes) (create path bytes) := by
  unfold create
  apply Like.bind (openFile_like path)
  intro serial number hSerials tree second hTrees
  exact ⟨trivial, likeness.write hTrees hSerials bytes⟩

theorem remove_like
    (path : Path) :
    Like likeness (fun _ _ => True) (remove path) (remove path) := by
  unfold remove
  apply Like.bind (locate_like path)
  rintro place _ rfl
  apply Like.getThen
  intro tree second hTrees
  have hAlike := likeness.alike hTrees
  simp only [hAlike.isReadOnly_eq place]
  refine Like.ite (Like.refuse path .readOnly) ?_
  rcases hAlike.cases place with
    ⟨hFirst, hSecond⟩ | ⟨hFirst, hSecond⟩ | ⟨_, _, hFirst, hSecond⟩
  · rw [hFirst, hSecond]
    exact Like.refuse path .missing
  · rw [hFirst, hSecond]
    exact Like.refuse path .isDirectory
  · rw [hFirst, hSecond]
    exact Like.set (likeness.drop hTrees place)

theorem rename_like
    (source target : Path) :
    Like likeness (fun _ _ => True) (rename source target)
      (rename source target) := by
  unfold rename
  apply Like.getThen
  intro tree second hTrees
  have hAlike := likeness.alike hTrees
  rw [hAlike.locate source, hAlike.locate target]
  cases second.locate source with
  | error fault => exact Like.throw _
  | ok start =>
      cases second.locate target with
      | error fault => exact Like.throw _
      | ok finish =>
          simp only [ne_eq, hAlike.isDirectory_iff, hAlike.isReadOnly_eq]
          refine Like.ite (Like.throw _) ?_
          have hMove :
              ∀ entry other : Entry,
                Entry.Matches likeness.serials entry other →
                  Like likeness (fun _ _ => True)
                    (set ((tree.drop start).put finish entry) : Disk PUnit)
                    (set ((second.drop start).put finish other)) :=
            fun _ _ hMatches =>
              Like.set
                (likeness.put (likeness.drop hTrees start) finish hMatches)
          rcases hAlike.cases start with
            ⟨hFirst, hSecond⟩ | ⟨hFirst, hSecond⟩ |
              ⟨_, _, hFirst, hSecond⟩
          · rw [hFirst, hSecond]
            exact Like.throw _
          · rw [hFirst, hSecond]
            exact Like.ite (Like.pure trivial)
              (Like.ite (Like.throw _)
                (Like.ite (Like.throw _) (hMove _ _ .directory)))
          · rw [hFirst, hSecond]
            have hEntry := likeness.entry hTrees hFirst hSecond
            exact Like.ite (Like.pure trivial)
              (Like.ite (Like.throw _)
                (Like.ite (Like.throw _) (hMove _ _ (.file hEntry))))

------------------------------------------------------------
-- Writing In One Piece
------------------------------------------------------------

theorem undo_like
    (path temporary : Path)
    (fault : Fault) :
    Like likeness (fun _ _ => True) (undo path temporary fault)
      (undo path temporary fault) := by
  unfold undo
  apply Like.bind (exists?_like temporary)
  rintro found _ rfl
  cases found with
  | true =>
      exact Like.bind (remove_like temporary) fun _ _ _ => Like.throw _
  | false => exact Like.throw _

/-
  Whether a file can be written does not depend on what is in
  the files.
-/
theorem writeAtomically_like
    (path : Path)
    (bytes : List UInt8)
    (added : Text) :
    Like likeness (fun _ _ => True) (writeAtomically path bytes added)
      (writeAtomically path bytes added) := by
  unfold writeAtomically
  apply Like.bind (makeDirectory_like path.parent)
  intro _ _ _
  apply Like.bind (Like.ofOutcome _ fun _ => rfl)
  rintro temporary _ rfl
  apply Like.tryCatch
  · exact Like.bind (create_like temporary bytes) fun _ _ _ =>
      rename_like temporary path
  · intro fault
    split
    · exact undo_like path temporary fault
    · exact Like.throw fault

theorem writeTextAtomically_like
    (path : Path)
    (text : Text)
    (encoding : String) :
    Like likeness (fun _ _ => True) (writeTextAtomically path text encoding)
      (writeTextAtomically path text encoding) := by
  unfold writeTextAtomically
  cases Encoding.encode? encoding text with
  | some bytes => exact writeAtomically_like path bytes _
  | none => exact Like.throw _

end Disk

end Joinery
