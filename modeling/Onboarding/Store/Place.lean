import Onboarding.Fault
import Onboarding.Text.Utf8

/-!
# Where a store file is kept

What the path of a store file leads to, and what reading and writing it does. Missing directories
above the file are made when it is written.
-/

namespace Onboarding

/-- What a path leads to. -/
inductive Place where
  /-- Nothing yet. -/
  | absent
  | file (content : Bytes)
  | directory
  /-- The directory that should hold the file is itself a plain file. -/
  | obstructed
  /-- A device that swallows what is written and reads as empty. -/
  | sink
  deriving Repr, DecidableEq

namespace Place

/-- The bytes at a place. -/
def read : Place → Except HostError Bytes
  | absent => .error ⟨.notFound, none⟩
  | file content => .ok content
  | directory => .error ⟨.isADirectory, none⟩
  | obstructed => .error ⟨.notADirectory, none⟩
  | sink => .ok []

/-- The text at a place. -/
def readText (p : Place) : Except HostError String :=
  match p.read with
  | .error e => .error e
  | .ok content =>
    match Utf8.decode content with
    | some t => .ok t
    | none => .error .notUtf8

/-- The place after its content was replaced. -/
def write (content : Bytes) : Place → Except HostError Place
  | absent | file _ => .ok (file content)
  | directory => .error ⟨.isADirectory, none⟩
  | obstructed => .error ⟨.alreadyExists, none⟩
  | sink => .ok sink

end Place

namespace Path

/-- The path of a name in a directory. -/
def join (directory name : String) : String :=
  if directory.isEmpty then name
  else if directory.toList.getLast? = some '/' then directory ++ name
  else directory ++ "/" ++ name

/-- The directory of the store file of the user with the given home directory. -/
def storeDirectory (home : Option String) : Except HostError String :=
  match home with
  | some h => .ok (join h ".device-provisioner")
  | none => .error ⟨.notFound, some "HOME not set"⟩

/-- The name of the store file in its directory. -/
def storeName : String := "device_config.json"

/-- The path of the store file of the user with the given home directory. -/
def storeFile (home : Option String) : Except HostError String :=
  (storeDirectory home).map (join · storeName)

end Path

end Onboarding
