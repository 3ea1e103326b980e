import Emend.Files
import Emend.Text.Occurrence

/-! # Stores

Files in memory. A store has files and directories at places, which are lists of names,
and a path is resolved to a place by walking through directories. An operation that
fails leaves the store as it is.
-/

namespace Emend

/-- What is at a place of a store. -/
inductive Item where
  /-- A file, which may be protected against writing. -/
  | file (bytes : ByteArray) (writable : Bool)
  | directory

/-- A place in a store: the names on the way to it. The place without names is the
working directory. What lies outside of it has the name `..` in front for every step up,
or the name `/` for the root. -/
abbrev Location := List String

/-- Whether a place is the working directory, one above it or the root. -/
def Location.isAbove (place : Location) : Bool :=
  place == ["/"] || place.all (· == "..")

/-- Whether a place lies outside of the working directory. -/
def Location.isOutside (place : Location) : Bool :=
  place.head? == some ".." || place.head? == some "/"

/-- Files and directories, each with its place. -/
structure Store where
  items : List (Location × Item)

namespace Store

/-- What is in the working directory, and in the directories there. -/
def contents (store : Store) : List (Location × Item) :=
  store.items.filter fun entry => !Location.isOutside entry.1

def empty : Store := ⟨[]⟩

def get? (store : Store) (place : Location) : Option Item :=
  if place.isAbove then some .directory else store.items.lookup place

def set (store : Store) (place : Location) (item : Item) : Store :=
  ⟨(place, item) :: store.items.filter fun entry => entry.1 != place⟩

/-- Follows one name from a directory. -/
def follow (place : Location) (name : String) : Location :=
  if name = "" || name = "." then place
  else if name = ".." then
    if place = ["/"] then place
    else if place.isAbove then place ++ [".."]
    else place.dropLast
  else place ++ [name]

def nameLimit : Nat := 255

def pathLimit : Nat := 4095

/-- Follows names. There has to be a directory before each of them. -/
def walk (store : Store) (place : Location) : (names : List String) → Except FileError Location
  | [] => .ok place
  | name :: names =>
      match store.get? place with
      | none => .error .notFound
      | some (.file ..) => .error .notDirectory
      | some .directory =>
          if nameLimit < name.utf8ByteSize then .error .nameTooLong
          else store.walk (follow place name) names

def names (path : String) : List String :=
  (Text.pieces ['/'] path.toList).map String.ofList

/-- The place where the names of a path start. -/
def origin (path : String) : Location :=
  if path.toList.head? = some '/' then ["/"] else []

/-- The place of a path. The directories on the way to it have to be there. -/
def resolve (store : Store) (path : String) : Except FileError Location :=
  if path.toList.contains '\x00' then .error .nulInPath
  else if pathLimit < path.utf8ByteSize then .error .nameTooLong
  else if path = "" then .error .notFound
  else store.walk (origin path) (names path)

def read (store : Store) (path : String) : Except FileError ByteArray :=
  match store.resolve path with
  | .error e => .error e
  | .ok place =>
      match store.get? place with
      | none => .error .notFound
      | some .directory => .error .isDirectory
      | some (.file bytes _) => .ok bytes

def put (store : Store) (path : String) (bytes : ByteArray) (writable : Bool) :
    Except FileError Store :=
  match store.resolve path with
  | .error e => .error e
  | .ok place =>
      match store.get? place with
      | some .directory => .error .isDirectory
      | some (.file _ false) => .error .permissionDenied
      | _ => .ok (store.set place (.file bytes writable))

/-- Puts bytes in the place of a file. -/
def write (store : Store) (path : String) (bytes : ByteArray) : Except FileError Store :=
  store.put path bytes true

/-- Puts the bytes of a file in the place of another, with the protection of the first. -/
def copy (store : Store) (source destination : String) : Except FileError Store :=
  match store.resolve source with
  | .error e => .error e
  | .ok place =>
      match store.get? place with
      | none => .error .notFound
      | some .directory => .error .notRegular
      | some (.file bytes writable) => store.put destination bytes writable

/-- A change of a store that may fail. -/
def change (f : Store → Except FileError Store) : StateM Store (Except FileError Unit) :=
  fun store =>
    match f store with
    | .ok store => (.ok (), store)
    | .error e => (.error e, store)

instance : Files (StateM Store) where
  read path := fun store => (store.read path, store)
  write path bytes := change (·.write path bytes)
  copy source destination := change (·.copy source destination)

/-- Makes the directories on the way to the end of a list of names. -/
def makeDirectories (store : Store) (place : Location) : (names : List String) → Store
  | [] => store
  | name :: names =>
      let place := follow place name
      match store.get? place with
      | none => (store.set place .directory).makeDirectories place names
      | some _ => store.makeDirectories place names

def makeDirectory (store : Store) (path : String) : Store :=
  store.makeDirectories (origin path) (names path)

def makeFile (store : Store) (path : String) (bytes : ByteArray) : Except FileError Store :=
  (store.makeDirectories (origin path) (names path).dropLast).write path bytes

/-- Removes a file, or a directory with all that is in it. -/
def remove (store : Store) (path : String) : Store :=
  match store.resolve path with
  | .error _ => store
  | .ok place => ⟨store.items.filter fun entry => !place.isPrefixOf entry.1⟩

end Store

end Emend
