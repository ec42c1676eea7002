import ColorCalls.Text.Basic

namespace ColorCalls

inductive FileError where
  | notFound
  | notADirectory
  | isADirectory
  | nameTooLong
  | permissionDenied
  | notText
  | system (reason : Text)
  deriving DecidableEq, Repr

def FileError.message : FileError → Text
  | .notFound => "No such file or directory (os error 2)"
  | .notADirectory => "Not a directory (os error 20)"
  | .isADirectory => "Is a directory (os error 21)"
  | .nameTooLong => "File name too long (os error 36)"
  | .permissionDenied => "Permission denied (os error 13)"
  | .notText => "stream did not contain valid UTF-8"
  | .system reason => reason

def decodeText? (bytes : ByteArray) : Option Text := (String.fromUTF8? bytes).map String.toList

def encodeText (t : Text) : ByteArray := (String.ofList t).toUTF8

def readText (bytes : ByteArray) : Except FileError Text :=
  match decodeText? bytes with
  | some t => .ok t
  | none => .error .notText

/-- A write that failed, and what the file holds after it. -/
structure WriteFault where
  error : FileError
  left : ByteArray

structure FileStore where
  files : List (Text × ByteArray)
  /-- The name of the file that a path leads to. -/
  resolve : Text → Except FileError Text
  /-- How writing a content to the file with a name fails, if it does. -/
  writeFault : Text → ByteArray → Option WriteFault := fun _ _ => none

namespace FileStore

def get? (store : FileStore) (name : Text) : Option ByteArray :=
  (store.files.find? fun file => file.1 = name).map Prod.snd

def read (store : FileStore) (path : Text) : Except FileError Text := do
  let name ← store.resolve path
  match store.get? name with
  | some content => readText content
  | none => throw .notFound

def replace (store : FileStore) (name : Text) (content : ByteArray) : FileStore :=
  { store with
    files := store.files.map fun file => if file.1 = name then (name, content) else file }

def write (store : FileStore) (path t : Text) : Except FileError Unit × FileStore :=
  match store.resolve path with
  | .error e => (.error e, store)
  | .ok name =>
      match store.writeFault name (encodeText t) with
      | none => (.ok (), store.replace name (encodeText t))
      | some fault => (.error fault.error, store.replace name fault.left)

end FileStore

end ColorCalls
