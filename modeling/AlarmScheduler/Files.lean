namespace AlarmScheduler

inductive ReadError where
  | notFound
  | permissionDenied
  | notDirectory
  | isDirectory
  | nameTooLong
  | nulInPath
  | notUtf8
  | refused (reason : String)
  deriving DecidableEq, Repr

def ReadError.message : ReadError → String
  | notFound => "No such file or directory (os error 2)"
  | permissionDenied => "Permission denied (os error 13)"
  | notDirectory => "Not a directory (os error 20)"
  | isDirectory => "Is a directory (os error 21)"
  | nameTooLong => "File name too long (os error 36)"
  | nulInPath => "file name contained an unexpected NUL byte"
  | notUtf8 => "stream did not contain valid UTF-8"
  | refused reason => reason

inductive FileTree where
  | file (content : ByteArray)
  | directory (entries : List (String × FileTree))

def textOf (content : ByteArray) : Except ReadError String :=
  match String.fromUTF8? content with
  | some s => .ok s
  | none => .error .notUtf8

namespace FileTree

def empty : FileTree := directory []

def entries : FileTree → List (String × FileTree)
  | file _ => []
  | directory es => es

/-- The directories above, nearest first, and what is here; or somewhere outside. -/
inductive Place where
  | inside (above : List FileTree) (here : FileTree)
  | outside

def longestName : Nat := 255

def longestPath : Nat := 4095

def stepDown (above : List FileTree) (here : FileTree) (es : List (String × FileTree))
    (name : String) : Except ReadError Place :=
  if longestName < name.utf8ByteSize then .error .nameTooLong
  else
    match es.lookup name with
    | some t => .ok (.inside (here :: above) t)
    | none => .error .notFound

def stepUp : List FileTree → Place
  | [] => .outside
  | parent :: above => .inside above parent

def enter (p : Place) (name : String) : Except ReadError Place :=
  match p with
  | .outside =>
    if name ∈ ["", ".", ".."] then .ok .outside
    else if longestName < name.utf8ByteSize then .error .nameTooLong
    else .error .notFound
  | .inside _ (.file _) => .error .notDirectory
  | .inside above (.directory es) =>
    if name ∈ ["", "."] then .ok (.inside above (.directory es))
    else if name = ".." then .ok (stepUp above)
    else stepDown above (.directory es) es name

def start (t : FileTree) (names : List String) : Place :=
  if names.head? = some "" then .outside else .inside [] t

def names (path : String) : List String := (path.toList.splitOn '/').map String.ofList

def read (t : FileTree) (path : String) : Except ReadError String :=
  if '\x00' ∈ path.toList then .error .nulInPath
  else if path = "" then .error .notFound
  else if longestPath < path.utf8ByteSize then .error .nameTooLong
  else
    match (names path).foldlM enter (start t (names path)) with
    | .error e => .error e
    | .ok (.inside _ (.file content)) => textOf content
    | .ok _ => .error .isDirectory

def put (new : FileTree) : List String → FileTree → FileTree
  | [], _ => new
  | name :: names, t =>
    let sub := put new names ((t.entries.lookup name).getD empty)
    directory ((t.entries.filter fun e => e.1 != name) ++ [(name, sub)])

def ofList (files : List (String × Option ByteArray)) : FileTree :=
  files.foldl
    (fun t f =>
      let new := match f.2 with
        | some content => file content
        | none => empty
      put new (names f.1) t)
    empty

end FileTree

end AlarmScheduler
