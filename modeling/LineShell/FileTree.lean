import LineShell.Path
import LineShell.Plugin.Basic
import LineShell.Plugin.Inert
import LineShell.Text.Quoted

/-!
The files that settings and plugins are read from. A tree is known by the absolute paths of its
files and directories; programs are known by the plugin classes that they define.

Not every path can be looked for: names and paths have a greatest size, and no name has a null
character. A path with a null character leads nowhere; one that is too long is a fault where the
search for it comes to the part that is too long.
-/

namespace LineShell

structure ProgramClass where
  isOwn : Bool
  plugin : Plugin

inductive FileEntry
  | text (content : String)
  | program (classes : Option (List ProgramClass))
  | directory

/-- Entries by absolute paths, and the directory that relative paths are seen from. -/
structure FileTree where
  cwd : Path
  entries : List (Path × FileEntry)

inductive PathFault
  | tooLong (path : Path)
  | nullCharacter
  deriving DecidableEq, Repr

def PathFault.message : PathFault → String
  | .tooLong path => "[Errno 36] File name too long: " ++ Text.quoted path.toText
  | .nullCharacter => "embedded null byte"

namespace FileTree

def nameLimit : Nat := 255

def pathLimit : Nat := 4095

def empty : FileTree := ⟨⟨"/", []⟩, []⟩

def file? (t : FileTree) (p : Path) : Option FileEntry :=
  (t.entries.find? fun e => e.1.names == p.names).map Prod.snd

def isDirectoryAt (t : FileTree) (p : Path) : Bool :=
  p.names.isPrefixOf t.cwd.names
    || t.entries.any fun e =>
      p.names.isPrefixOf e.1.names
        && (e.1.names.length != p.names.length || e.2 matches .directory)

inductive Found
  | somewhere (names : List String)
  | nowhere
  | blocked
  deriving DecidableEq, Repr

/-- Follows names from an absolute path; two dots go up, and only directories lead on. -/
def follow (t : FileTree) : List String → List String → Found
  | here, [] => .somewhere here
  | here, n :: rest =>
    if !t.isDirectoryAt ⟨"/", here⟩ then .nowhere
    else if nameLimit < n.utf8ByteSize then .blocked
    else follow t (if n = ".." then here.dropLast else here ++ [n]) rest

def locate (t : FileTree) (p : Path) : Except PathFault (Option Path) :=
  if p.hasNull then .ok none
  else if pathLimit < p.toText.utf8ByteSize then .error (.tooLong p)
  else
    match t.follow [] (t.cwd.append p).names with
    | .somewhere names => .ok (some ⟨"/", names⟩)
    | .nowhere => .ok none
    | .blocked => .error (.tooLong p)

def locate? (t : FileTree) (p : Path) : Option Path :=
  (t.locate p).toOption.join

def isFileAt (t : FileTree) (p : Path) : Bool :=
  match t.file? p with
  | some (.text _) | some (.program _) => true
  | _ => false

def isFile (t : FileTree) (p : Path) : Except PathFault Bool :=
  (t.locate p).map fun found => found.any t.isFileAt

def isDirectory (t : FileTree) (p : Path) : Except PathFault Bool :=
  (t.locate p).map fun found => found.any t.isDirectoryAt

def resolve (t : FileTree) (p : Path) : Except PathFault Path :=
  if p.hasNull then .error .nullCharacter else .ok (t.cwd.resolve p)

def text? (t : FileTree) (p : Path) : Option String :=
  match (t.locate? p).bind t.file? with
  | some (.text s) => some s
  | _ => none

def program? (t : FileTree) (p : Path) : Option (List ProgramClass) :=
  match (t.locate? p).bind t.file? with
  | some (.program classes) => classes
  | some (.text s) => if Inert.isInert s then some [] else none
  | _ => none

def children (t : FileTree) (dir : Path) : List String :=
  match t.locate? dir with
  | none => []
  | some d =>
    if t.isDirectoryAt d then
      let names := t.entries.filterMap fun e =>
        if d.names.isPrefixOf e.1.names then (e.1.names.drop d.names.length).head? else none
      names.eraseDups
    else []

end FileTree

end LineShell
