import ChainExplorer.Files.Basic

set_option autoImplicit false

namespace ChainExplorer

inductive Entry where
  | file (text : String)
  | directory (entries : List (String × Entry))
deriving Repr, Inhabited

abbrev Entries := List (String × Entry)

structure FileTree where
  root : Entries
  place : List String
deriving Repr

namespace FileTree

def find? : Entries → List String → Option Entry
  | entries, [] => some (.directory entries)
  | entries, name :: names =>
      match entries.lookup name with
      | some (.directory inner) => find? inner names
      | some (.file text) => if names.isEmpty then some (.file text) else none
      | none => none

def put (entry : Entry) : Entries → List String → Entries
  | entries, [] => entries
  | [], name :: names => if names.isEmpty then [(name, entry)] else []
  | (other, known) :: rest, name :: names =>
      if other = name then
        match known, names with
        | _, [] => (name, entry) :: rest
        | .directory inner, names => (name, .directory (put entry inner names)) :: rest
        | .file _, _ => (other, known) :: rest
      else (other, known) :: put entry rest (name :: names)

-- Follows the parts of a path; each but the last must lead to a directory.
def follow (root : Entries) : List String → List String → Except FileError (List String)
  | place, [] => .ok place
  | place, part :: parts =>
      match find? root place with
      | none => .error .notFound
      | some (.file _) => .error .notADirectory
      | some (.directory _) =>
          if part = "." then follow root place parts
          else if part = ".." then follow root place.dropLast parts
          else follow root (place ++ [part]) parts

def locate (tree : FileTree) (path : String) : Except FileError (List String) :=
  if path.isEmpty then .error .notFound
  else follow tree.root (if Path.isAbsolute path then [] else tree.place) (Path.parts path)

def entry (tree : FileTree) (path : String) : Except FileError Entry :=
  match tree.locate path with
  | .error problem => .error problem
  | .ok names =>
      match find? tree.root names with
      | none => .error .notFound
      | some (.file text) => if Path.asksForDirectory path then .error .notADirectory else .ok (.file text)
      | some found => .ok found

def isDirectory (tree : FileTree) (path : String) : Bool :=
  match tree.entry path with
  | .ok (.directory _) => true
  | _ => false

def isFile (tree : FileTree) (path : String) : Bool :=
  match tree.entry path with
  | .ok (.file _) => true
  | _ => false

def isThere (tree : FileTree) (path : String) : Bool := tree.entry path matches .ok _

def read (tree : FileTree) (path : String) : Except FileError String :=
  match tree.entry path with
  | .ok (.file text) => .ok text
  | .ok (.directory _) => .error .isADirectory
  | .error problem => .error problem

def revise (tree : FileTree) (path : String) (change : String → String) : Except FileError FileTree :=
  match tree.entry path with
  | .ok (.directory _) => .error .isADirectory
  | .ok (.file text) => (tree.locate path).map fun names => { tree with root := put (.file (change text)) tree.root names }
  | .error .notFound =>
      if Path.asksForDirectory path then .error .isADirectory
      else (tree.locate path).map fun names => { tree with root := put (.file (change "")) tree.root names }
  | .error problem => .error problem

def makeOne (tree : FileTree) (path : String) : Except FileError FileTree :=
  match tree.locate path with
  | .error problem => .error problem
  | .ok names =>
      match find? tree.root names with
      | some _ => .error .alreadyExists
      | none =>
          match find? tree.root names.dropLast with
          | none => .error .notFound
          | some (.file _) => .error .notADirectory
          | some (.directory _) => .ok { tree with root := put (.directory []) tree.root names }

def ensureOne (tree : FileTree) (path : String) : Except FileError FileTree :=
  match tree.makeOne path with
  | .ok tree => .ok tree
  | .error problem => if tree.isDirectory path then .ok tree else .error problem

-- Makes a directory, and those above it that are missing. The fuel bounds their number.
def ensure : Nat → FileTree → String → Except FileError FileTree
  | 0, tree, path => tree.ensureOne path
  | fuel + 1, tree, path =>
      if path.isEmpty then .ok tree
      else
        match tree.ensureOne path, Path.parent? path with
        | .error .notFound, some parent => (ensure fuel tree parent).bind (ensureOne · path)
        | result, _ => result

-- The state of a tree after work on it that may fail; failed work leaves it alone.
def attempt (work : FileTree → Except FileError FileTree) : StateM FileTree (Except FileError Unit) :=
  fun tree =>
    match work tree with
    | .ok changed => (.ok (), changed)
    | .error problem => (.error problem, tree)

instance : Files (StateM FileTree) where
  here := fun tree => (Path.ofParts true tree.place, tree)
  isThere path := fun tree => (tree.isThere path, tree)
  isFile path := fun tree => (tree.isFile path, tree)
  read path := fun tree => (tree.read path, tree)
  makeDirectory path := attempt fun tree => ensure ((Path.parts path).length + 1) tree path
  write path text := attempt fun tree => tree.revise path fun _ => text
  append path text := attempt fun tree => tree.revise path (· ++ text)

end FileTree
end ChainExplorer
