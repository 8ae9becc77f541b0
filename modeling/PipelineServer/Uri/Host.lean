import PipelineServer.Uri.Address
import PipelineServer.Uri.Domain
import PipelineServer.Uri.Percent

/-!
Hosts.

A uri of a known scheme names a host by its domain or its address. In other uris all that is not in
brackets is kept as it is.
-/

namespace PipelineServer.Uri

/-- An address in brackets. -/
def bracketed? (text : List Char) : Option (List Char) :=
  if text.getLast? = some ']' then (Ipv6.parse? (text.drop 1).dropLast).map Ipv6.render else none

/-- The host of a uri of a known scheme, in normal form. -/
def host? (text : List Char) : Option (List Char) := do
  if text.head? = some '[' then bracketed? text
  else
    let name ← Domain.toAscii? (← Text.decodeUtf8? (decodeBytes text)).toList
    if name.isEmpty then none
    else if Ipv4.endsInNumber name then (Ipv4.parse? name).map Ipv4.render
    else some name

/-- The host of a uri of another scheme, which may be empty. -/
def plainHost? (text : List Char) : Option (List Char) :=
  let refused := fun c : Char =>
    ['\x00', '\t', '\n', '\r', ' ', '#', '/', ':', '<', '>', '?', '@', '[', '\\', ']', '^',
     '|'].contains c
  if text.head? = some '[' then bracketed? text
  else if text.any refused then none
  else some (encode controlSet text)

end PipelineServer.Uri
