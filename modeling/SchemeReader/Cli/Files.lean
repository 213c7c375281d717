import SchemeReader.Fault

set_option autoImplicit false

namespace SchemeReader.Cli

inductive FileError
  | notFound
  | notDirectory
  | isDirectory
  | nameTooLong
  | other (number : Nat) (text : String)
deriving DecidableEq

namespace FileError

def number : FileError → Nat
  | notFound => 2
  | notDirectory => 20
  | isDirectory => 21
  | nameTooLong => 36
  | other number _ => number

def text : FileError → String
  | notFound => "No such file or directory"
  | notDirectory => "Not a directory"
  | isDirectory => "Is a directory"
  | nameTooLong => "File name too long"
  | other _ text => text

def message (error : FileError) (path : String) : String :=
  "[Errno " ++ toString error.number ++ "] " ++ error.text ++ ": " ++ Text.quotedString path

end FileError

inductive Lookup
  | found (contents : String)
  | failed (error : FileError)
  | fault (cause : Fault)

abbrev Directory := List (List String × String)

namespace Directory

def ofFiles (files : List (String × String)) : Directory :=
  files.map fun (name, contents) => ((name.splitOn "/").filter (· ≠ ""), contents)

def partLimit : Nat := 255

def pathLimit : Nat := 4095

inductive Place
  | inside (parts : List String)
  | above
  | system (parts : List String)

def Place.parent : Place → Place
  | inside [] | above => above
  | inside (_ :: outer) => inside outer
  | system parts => system parts.tail

inductive Target
  | file (contents : String)
  | folder

def systemTarget? : List String → Option Target
  | [] | ["dev"] | ["tmp"] => some .folder
  | ["null", "dev"] => some (.file "")
  | _ => none

def ownTarget? (directory : Directory) (parts : List String) : Option Target :=
  match directory.lookup parts.reverse with
  | some contents => some (.file contents)
  | none =>
    if directory.any fun (path, _) => parts.reverse.isPrefixOf path then
      some .folder
    else none

def child? (directory : Directory) (here : Place) (part : String) : Option (Place × Target) :=
  match here with
  | .inside parts => (ownTarget? directory (part :: parts)).map (.inside (part :: parts), ·)
  | .above => none
  | .system parts => (systemTarget? (part :: parts)).map (.system (part :: parts), ·)

def follow (directory : Directory) (here : Place) : Target → List String → Lookup
  | .file contents, [] => .found contents
  | .folder, [] => .failed .isDirectory
  | .file _, _ :: _ => .failed .notDirectory
  | .folder, part :: rest =>
    if part = "" || part = "." then follow directory here .folder rest
    else if part = ".." then follow directory here.parent .folder rest
    else if partLimit < part.utf8ByteSize then .failed .nameTooLong
    else
      match child? directory here part with
      | none => .failed .notFound
      | some (there, target) => follow directory there target rest

def origin (path : String) : Place :=
  if path.toList.head? = some '/' then .system [] else .inside []

def open? (directory : Directory) (path : String) : Lookup :=
  if '\x00' ∈ path.toList then .fault .nullInPath
  else if path = "" then .failed .notFound
  else if pathLimit < path.utf8ByteSize then .failed .nameTooLong
  else follow directory (origin path) .folder (path.splitOn "/")

end Directory

end SchemeReader.Cli
