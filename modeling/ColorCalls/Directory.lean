import ColorCalls.FileStore
import ColorCalls.Text.Split

/-! Paths in a working directory that holds files only. -/

namespace ColorCalls.Directory

/-- How far a path leads: to the directory itself, somewhere above it, or to one of its files. -/
inductive Place where
  | here
  | above
  | file (name : Text)
  deriving DecidableEq, Repr

def longestName : Nat := 255

def longestPath : Nat := 4095

def step (names : List Text) (place : Place) (part : Text) : Except FileError Place :=
  match place with
  | .file _ => .error .notADirectory
  | .here | .above =>
      if part = [] ∨ part = "." then .ok place
      else if part = ".." then .ok .above
      else if longestName < Text.bytes part then .error .nameTooLong
      else if place = .here ∧ part ∈ names then .ok (.file part)
      else .error .notFound

def resolve (names : List Text) (path : Text) : Except FileError Text :=
  if path = [] then .error .notFound
  else if longestPath < Text.bytes path then .error .nameTooLong
  else do
    let start := if path.head? = some '/' then Place.above else .here
    match ← (path.splitOn '/').foldlM (step names) start with
    | .file name => return name
    | .here | .above => throw .isADirectory

def store (files : List (Text × ByteArray)) : FileStore where
  files := files
  resolve := resolve (files.map Prod.fst)

end ColorCalls.Directory
