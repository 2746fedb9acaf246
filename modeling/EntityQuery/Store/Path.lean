import EntityQuery.Store.Engine
import EntityQuery.Text.Utf8

/-!
# Paths of databases

A path leads to a file of the directory; one that is not absolute starts from there. A
path to anywhere else cannot be opened. `:memory:` is no file, and neither is the empty
path.

A path that starts with `file:` is a URI: it may have an empty authority or that of the
machine itself, bytes may be written by their hexadecimal digits, and options may follow
it, of which `mode` says how the file is opened.
-/

namespace EntityQuery.Store

namespace Path

/-- The names on the way to a path, empty ones and the directory itself apart. -/
def segments (path : List Char) : List String :=
  ((path.splitOn '/').map String.ofList).filter fun s => s != "" && s != "."

/-- The part of a path after the directory; one that is not absolute starts from
    the directory. -/
def within? (directory path : String) : Option (List Char) :=
  if (directory.toList ++ ['/']).isPrefixOf path.toList then
    some (path.toList.drop (directory.length + 1))
  else if path == directory || ['/'].isPrefixOf path.toList then none
  else some path.toList

/-- Where the name of a file leads to, which a path gives. -/
def locateFile (directory path name : String) : Except Fault Location :=
  if name = "" || name = ":memory:" then .ok .memory
  else
    match (within? directory name).map segments with
    | some [file] => if file = ".." then .error (.cannotOpen path) else .ok (.file file)
    | _ => .error (.cannotOpen path)

/-! ## URIs -/

/-- The number that a hexadecimal digit stands for. -/
def hexValue? (b : UInt8) : Option UInt8 :=
  let c := Char.ofNat b.toNat
  if c.isDigit then some (b - 0x30)
  else if 'a' ≤ c && c ≤ 'f' then some (b - 0x57)
  else if 'A' ≤ c && c ≤ 'F' then some (b - 0x37)
  else none

/-- The byte that two hexadecimal digits stand for. -/
def hexByte? (a b : UInt8) : Option UInt8 := do
  return (← hexValue? a) * 16 + (← hexValue? b)

/-- The bytes of a part of a URI, where those are replaced that are written by their
    digits. It goes no further than to a NUL that is written so. -/
def decoded : List UInt8 → List UInt8
  | [] => []
  | [c] => [c]
  | [c, a] => [c, a]
  | c :: a :: b :: after =>
    match if c == '%'.toUInt8 then hexByte? a b else none with
    | some 0 => []
    | some byte => byte :: decoded after
    | none => c :: decoded (a :: b :: after)

/-- The texts between separators, as they are decoded. -/
def parts (separator : Char) (bytes : List UInt8) : List (List UInt8) :=
  bytes.splitOn separator.toUInt8

/-- A part of a URI as a text, if it is one. -/
def partText? (bytes : List UInt8) : Option String := String.fromUTF8? (decoded bytes).toByteArray

/-- The part of a URI after its authority, which is empty or that of the machine. -/
def afterAuthority (uri : String) : Except Fault (List Char) :=
  let rest := uri.toList.drop 5
  if ['/', '/'].isPrefixOf rest then
    let authority := String.ofList ((rest.drop 2).takeWhile (· != '/'))
    if authority = "" || authority = "localhost" then
      .ok ((rest.drop 2).dropWhile (· != '/'))
    else .error (.stated ("invalid uri authority: " ++ authority))
  else .ok rest

/-- An option of a URI, by its name and its value. -/
def option? (bytes : List UInt8) : Option (String × String) := do
  let separator := '='.toUInt8
  let name ← partText? (bytes.takeWhile (· != separator))
  let value ← partText? ((bytes.dropWhile (· != separator)).drop 1)
  return (name, value)

/-- Where a file is that is opened with options. Some ways to open a file are none that this
    store has. -/
def locateWith (uri : String) (location : Location) :
    List (String × String) → Except Fault Location
  | [] => .ok location
  | ("mode", "memory") :: _ => .ok .memory
  | ("mode", mode) :: rest =>
    if mode = "rwc" then locateWith uri location rest
    else if mode = "rw" || mode = "ro" then .error (.unsupported uri)
    else .error (.stated ("no such access mode: " ++ mode))
  | ("cache", mode) :: rest =>
    if mode = "shared" || mode = "private" then locateWith uri location rest
    else .error (.stated ("no such cache mode: " ++ mode))
  | (name, _) :: rest =>
    if name = "vfs" || name = "immutable" || name = "nolock" then .error (.unsupported uri)
    else locateWith uri location rest

/-- Where a URI leads to. -/
def locateUri (directory uri : String) : Except Fault Location := do
  let rest ← afterAuthority uri
  let bytes := (String.ofList (rest.takeWhile (· != '#'))).toUTF8.toList
  let mark := '?'.toUInt8
  let name := partText? (bytes.takeWhile (· != mark))
  let options := (parts '&' ((bytes.dropWhile (· != mark)).drop 1)).mapM option?
  match name, options with
  | some name, some options => locateWith uri (← locateFile directory uri name) options
  | _, _ => .error (.unsupported uri)

/-- Where a path leads to. -/
def locate (directory path : String) : Except Fault Location :=
  if "file:".toList.isPrefixOf path.toList then locateUri directory path
  else locateFile directory path path

end Path

end EntityQuery.Store
