import SecondFactor.Http.Label
import SecondFactor.Text.Split

/-!
# Host names

A host name in international letters is written in ASCII label by label. Beside the point, three
other characters count as points.
-/

namespace SecondFactor.Http.HostName

/-- The characters between labels. -/
def isPoint (c : Char) : Bool :=
  c == '.' || c.toNat == 0x3002 || c.toNat == 0xFF0E || c.toNat == 0xFF61

/-- The labels of a name, and whether a point follows the last one. -/
def labels (name : List Char) : Except HostFault (List (List Char) × Bool) :=
  let parts := Split.atEach isPoint name
  if 254 < name.length || name.isEmpty then .error .malformed
  else if parts.getLast? = some [] then .ok (parts.dropLast, true)
  else .ok (parts, false)

/-- A host name in ASCII. -/
def encode (name : List Char) : Except HostFault (List Char) := do
  let (parts, closed) ← labels name
  let parts ← parts.mapM Label.encode
  let ascii := Split.join '.' (if closed then parts ++ [[]] else parts)
  if (if closed then 254 else 253) < ascii.length then throw .malformed
  return ascii

/-- The host name in international letters that a name in ASCII stands for. -/
def decode (name : List Char) : Except HostFault (List Char) := do
  let (parts, closed) ← labels name
  let parts ← parts.mapM Label.decode
  let parts := parts.map (·.map Char.ofNat)
  return Split.join '.' (if closed then parts ++ [[]] else parts)

end SecondFactor.Http.HostName
