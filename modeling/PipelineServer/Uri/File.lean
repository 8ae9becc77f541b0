import PipelineServer.Path
import PipelineServer.Uri.Basic
import PipelineServer.Uri.Percent

/-!
Between uris and file paths.

The way from a uri to a path looks only at host and path, so uris of several schemes and spellings
can lead to one path; the way back always gives a `file` uri.
-/

namespace PipelineServer.Uri

/-- Host and path of a normalised uri; nothing if the path does not start with a slash. -/
def hostAndPath? (u : Uri) : Option (List Char × List Char) :=
  let rest := (u.text.toList.dropWhile (· != ':')).drop 1
  let ends := fun c : Char => c == '?' || c == '#'
  let withHost := fun (host after : List Char) =>
    match after.takeWhile (fun c => !ends c) with
    | '/' :: path => some (host, path)
    | _ => none
  match rest with
  | '/' :: '/' :: after =>
      let inAuthority := fun c : Char => c != '/' && !ends c
      let authority := after.takeWhile inAuthority
      let place := (authority.reverse.takeWhile (· != '@')).reverse
      withHost (place.takeWhile (· != ':')) (after.dropWhile inAuthority)
  | '/' :: '.' :: '/' :: '/' :: after => withHost [] ('/' :: '/' :: after)
  | _ => withHost [] rest

/-- A path that ends in a letter and a drive mark is closed with a slash. -/
def closeDrive (path : List UInt8) : List UInt8 :=
  match path.reverse with
  | mark :: letter :: _ :: _ =>
      if (Char.ofNat letter.toNat).isAlpha && (mark == 0x3A || mark == 0x7C) then
        path ++ [Path.slash]
      else path
  | _ => path

/-- The local path of a uri: its path with the encoding undone, if it names no host other than
`localhost`. -/
def toPath? (u : Uri) : Option Path :=
  match u.hostAndPath? with
  | none => none
  | some (host, path) =>
      if host = [] || host = "localhost".toList then some ⟨closeDrive (decodeBytes ('/' :: path))⟩
      else none

/-- The text of one step of a path inside a `file` uri. -/
def stepText : Component → List Char
  | .name bytes => encodeBytes fileNameSet bytes
  | .up => ['.', '.']
  | .here | .root => ['.']

/-- The `file` uri of an absolute path. -/
def ofPath? (p : Path) : Option Uri :=
  match p.components with
  | .root :: [] => some ⟨"file:///"⟩
  | .root :: steps =>
      some ⟨String.ofList ("file://".toList ++ steps.flatMap fun step => '/' :: stepText step)⟩
  | _ => none

end PipelineServer.Uri
