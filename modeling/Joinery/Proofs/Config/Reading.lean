import Joinery.Config.Load
import Joinery.Proofs.FileTree.Likeness
import Joinery.Proofs.Outcome
import Joinery.Proofs.Stateful

/-
  To read a job looks at the files and leaves them as they
  are, whether it succeeds or not.

  Key definitions include:
    * `Disk.Looks`
    * `FileTree.contentAt?`

  Key theorems include:
    * `Disk.Looks.bind`
    * `Disk.requireJob_looks`
    * `Disk.readJob_looks`
    * `Disk.loadJob_result`
    * `Disk.loadJob_of_content`
-/

namespace Joinery

------------------------------------------------------------
-- Looking At Files
------------------------------------------------------------

namespace Disk

/- An operation that only looks at the files. -/
def Looks
    {α : Type}
    (act : Disk α) : Prop :=
  ∀ tree, (act tree).2 = tree

namespace Looks

variable {α β : Type}

theorem pure
    (a : α) :
    Looks (Pure.pure a) :=
  fun _ => rfl

theorem throw
    (fault : Fault) :
    Looks (throw fault : Disk α) :=
  fun _ => rfl

theorem ofOutcome
    (outcome : Outcome α) :
    Looks (liftM outcome) := by
  intro tree
  rw [Stateful.liftM_apply]

theorem bind
    {act : Disk α}
    {next : α → Disk β}
    (hAct : Looks act)
    (hNext : ∀ a, Looks (next a)) :
    Looks (act >>= next) := by
  intro tree
  have hFirst := hAct tree
  rw [Stateful.bind_apply]
  revert hFirst
  rcases act tree with ⟨outcome, later⟩
  rintro rfl
  cases outcome with
  | ok a => exact hNext a later
  | error fault => rfl

end Looks

theorem exists?_looks
    (path : Path) :
    Looks (exists? path) := by
  unfold exists?
  refine Looks.bind ?_ fun entry => Looks.pure _
  intro tree
  rw [status?_apply]
  split
  · rfl
  · split <;> rfl

theorem read_looks
    (path : Path) :
    Looks (read path) := by
  unfold read
  refine Looks.bind ?_ fun place => Looks.bind (fun _ => rfl) fun tree => ?_
  · intro tree
    rw [locate_apply]
    split
    · rfl
    · split <;> rfl
  · split
    · exact Looks.throw _
    · exact Looks.pure _
    · exact Looks.throw _

------------------------------------------------------------
-- Jobs
------------------------------------------------------------

theorem requireJob_looks
    (path : Path) :
    Looks (requireJob path) := by
  unfold requireJob
  refine Looks.bind (exists?_looks path) fun found => ?_
  split
  · exact Looks.throw _
  · exact Looks.pure _

theorem readJob_looks
    (reader : YamlReader)
    (path : Path) :
    Looks (readJob reader path) := by
  unfold readJob loadYaml
  refine Looks.bind ?_ fun data => Looks.ofOutcome _
  refine Looks.bind (exists?_looks path) fun found => ?_
  split
  · exact Looks.bind (Looks.throw _) fun _ => Looks.bind (read_looks path)
      fun bytes => Looks.ofOutcome _
  · exact Looks.bind (read_looks path) fun bytes => Looks.ofOutcome _

/- A job is what the content of its file describes. -/
theorem readJob_result
    (reader : YamlReader)
    (path : Path)
    (tree : FileTree) :
    (readJob reader path tree).1 =
      ((loadYaml reader path tree).1 >>= Job.ofValue path.text) := by
  unfold readJob
  rw [Stateful.bind_apply]
  rcases loadYaml reader path tree with ⟨outcome, later⟩
  cases outcome with
  | error fault => rfl
  | ok data =>
      dsimp only
      rw [Stateful.liftM_apply]
      rfl

/- A job is read if its file is there. -/
theorem loadJob_result
    (reader : YamlReader)
    (path : Path)
    (tree : FileTree) :
    (loadJob reader path tree).1 =
      ((requireJob path tree).1 >>= fun _ =>
        (readJob reader path tree).1) := by
  have hFirst := requireJob_looks path tree
  unfold loadJob
  rw [Stateful.bind_apply]
  revert hFirst
  rcases requireJob path tree with ⟨outcome, later⟩
  rintro rfl
  cases outcome <;> rfl

end Disk

------------------------------------------------------------
-- Contents
------------------------------------------------------------

/- The bytes of the file that a path leads to. -/
def FileTree.contentAt?
    (tree : FileTree)
    (path : Path) : Option (List UInt8) :=
  if (Disk.flaw? path).isSome then none
  else
    match tree.locate path with
    | .ok place => tree.read? place
    | .error _ => none

/- A path that leads to a file has no flaw, and leads to its entry. -/
theorem FileTree.contentAt?_spec
    {tree : FileTree}
    {path : Path}
    {bytes : List UInt8}
    (hContent : tree.contentAt? path = some bytes) :
    Disk.flaw? path = none ∧
      ∃ place serial, tree.locate path = .ok place ∧
        tree.entry? place = some (.file serial) ∧
        tree.bytes serial = bytes := by
  unfold contentAt? at hContent
  cases hFlaw : Disk.flaw? path with
  | some fault =>
      rw [hFlaw] at hContent
      cases hContent
  | none =>
      rw [hFlaw] at hContent
      cases hPlace : tree.locate path with
      | error fault =>
          rw [hPlace] at hContent
          cases hContent
      | ok place =>
          rw [hPlace] at hContent
          refine ⟨rfl, place, ?_⟩
          change tree.read? place = some bytes at hContent
          unfold read? at hContent
          split at hContent
          · rename_i serial hEntry
            cases hContent
            exact ⟨serial, rfl, hEntry, rfl⟩
          · cases hContent

namespace Disk

variable {path : Path}
variable {tree : FileTree}
variable {bytes : List UInt8}

/- A path that leads to a file leads to something. -/
theorem exists?_of_content
    (hContent : tree.contentAt? path = some bytes) :
    exists? path tree = (.ok true, tree) := by
  rcases FileTree.contentAt?_spec hContent with
    ⟨hFlaw, place, serial, hPlace, hEntry, _⟩
  unfold exists?
  rw [Stateful.bind_apply, status?_apply, hFlaw, hPlace]
  show (Except.ok (tree.entry? place).isSome, tree) = _
  rw [hEntry]
  rfl

/- A path that leads to a file is read. -/
theorem read_of_content
    (hContent : tree.contentAt? path = some bytes) :
    read path tree = (.ok bytes, tree) := by
  rcases FileTree.contentAt?_spec hContent with
    ⟨hFlaw, place, serial, hPlace, hEntry, hBytes⟩
  unfold read
  rw [Stateful.bind_apply, locate_apply, hFlaw, hPlace]
  dsimp only
  rw [Stateful.bind_apply, Stateful.get_apply]
  dsimp only
  rw [hEntry, ← hBytes]
  rfl

/- The job of a file is what its bytes describe to the reader. -/
theorem loadJob_of_content
    (reader : YamlReader)
    (hContent : tree.contentAt? path = some bytes) :
    (loadJob reader path tree).1 =
      (reader bytes >>= Job.ofValue path.text) := by
  have hFound := exists?_of_content hContent
  have hRead := read_of_content hContent
  have hRequire : requireJob path tree = (.ok ⟨⟩, tree) := by
    unfold requireJob
    rw [Stateful.bind_of_ok hFound]
    rfl
  have hLoad : loadYaml reader path tree = (reader bytes, tree) := by
    unfold loadYaml
    rw [Stateful.bind_of_ok hFound]
    show (read path >>= fun bytes => liftM (reader bytes)) tree = _
    rw [Stateful.bind_of_ok hRead, Stateful.liftM_apply]
  rw [loadJob_result, hRequire, Outcome.ok_bind, readJob_result, hLoad]

end Disk

end Joinery
