import Joinery.Fault

/-
  This file defines paths: names of files and directories,
  relative to the working directory or to the root.

  Key definitions include:
    * `Path`
    * `Path.ofText`
    * `Path.text`
    * `Path.parent`
    * `Path.suffix`
    * `Path.withSuffix`
    * `Path.flattened`
-/

namespace Joinery

------------------------------------------------------------
-- Paths
------------------------------------------------------------

/-
  A path: the slashes it begins with, and its parts. Two
  slashes at the beginning are kept apart from one. No part
  is empty or a single point.
-/
structure Path where
  root : String
  parts : List Text
  deriving DecidableEq, Repr

namespace Path

/- The parts of a text between slashes, empty ones included. -/
def splitSlash : List Letter → List (List Letter)
  | [] => [[]]
  | l :: rest =>
      if l = '/' then [] :: splitSlash rest
      else
        match splitSlash rest with
        | first :: others => (l :: first) :: others
        | [] => [[l]]

/- The slashes at the beginning that count: none, one, or exactly two. -/
def rootOf
    (ls : List Letter) : String :=
  match (ls.takeWhile (· = .char '/')).length with
  | 0 => ""
  | 2 => "//"
  | _ => "/"

/- The path that a text names. Empty parts and single points are dropped. -/
def ofText
    (t : Text) : Path :=
  let parts := (splitSlash t.letters).map Text.ofLetters
  ⟨rootOf t.letters, parts.filter fun p => p ≠ "" ∧ p ≠ "."⟩

/- A path as text; the working directory itself is a point. -/
def text
    (p : Path) : Text :=
  if p.root = "" ∧ p.parts = [] then "."
  else p.root ++ Text.joined "/" p.parts

/- The last part of a path, or nothing. -/
def name
    (p : Path) : Text :=
  p.parts.getLast?.getD ""

/- The path of the directory that holds a path. -/
def parent
    (p : Path) : Path :=
  { p with parts := p.parts.dropLast }

------------------------------------------------------------
-- Suffixes
------------------------------------------------------------

/-
  Split a name before its last point. A point at either end
  of the name begins no suffix.
-/
def splitName
    (name : Text) : Text × Text :=
  let ls := name.letters.reverse
  let tail := ls.takeWhile (· ≠ .char '.')
  match ls.dropWhile (· ≠ .char '.') with
  | point :: stem =>
      if tail = [] ∨ stem = [] then (name, "")
      else
        (.ofLetters stem.reverse, .ofLetters (point :: tail.reverse))
  | [] => (name, "")

/- The suffix of the last part, with its point. -/
def suffix
    (p : Path) : Text :=
  (splitName p.name).2

/- A suffix is empty, or a point and a name without slashes. -/
def isSuffix
    (t : Text) : Bool :=
  match t.letters with
  | [] => true
  | point :: name =>
      point = '.' && name ≠ [] && !name.contains (.char '/')

/- The path with another suffix. It must have a name. -/
def withSuffix
    (p : Path)
    (s : Text) : Outcome Path :=
  if !isSuffix s then fail (.invalidSuffix s)
  else if p.name = "" then fail (.noFileName p.text)
  else
    .ok { p with
      parts := p.parts.dropLast ++ [(splitName p.name).1 ++ s] }

------------------------------------------------------------
-- Flattening
------------------------------------------------------------

/- Let every pair of points take back the part before it. -/
def flattenParts
    (rooted : Bool) : List Text → List Text → List Text
  | acc, [] => acc.reverse
  | acc, part :: rest =>
      if part ≠ ".." then flattenParts rooted (part :: acc) rest
      else
        match acc with
        | [] => flattenParts rooted (if rooted then [] else [".."]) rest
        | last :: others =>
            if last = ".." then flattenParts rooted (".." :: acc) rest
            else flattenParts rooted others rest

/- The path below a directory, without pairs of points where possible. -/
def flattened
    (home : List Text)
    (p : Path) : Path :=
  if p.root = "" then
    ⟨"/", flattenParts true [] (home ++ p.parts)⟩
  else ⟨p.root, flattenParts true [] p.parts⟩

end Path

end Joinery
