import ServiceClient.Disk
import ServiceClient.Text.EncodingNames
import ServiceClient.Value

namespace ServiceClient.Logging

structure LogFile where
  path : Path
  mode : Value
  encoding : Value
  errors : Value

inductive OpenError : Type
  | wrongKind : OpenError
  | wrongValue : OpenError
  | unknownEncoding : OpenError
  | file (error : FileError) : OpenError
  deriving DecidableEq

namespace LogFile

def openingLetters : List (Char × Disk.Opening) :=
  [('r', .existing), ('x', .new), ('w', .either), ('a', .either)]

def opening? (mode : List Char) : Option Disk.Opening := do
  if !(mode.all "rxwa+tb".toList.contains && mode.eraseDups.length = mode.length) then none
  if mode.contains 't' && mode.contains 'b' then none
  match mode.filterMap fun c => openingLetters.lookup c with
  | [opening] => return opening
  | _ => none

def text? : Value → Except OpenError (Option String)
  | .null => .ok none
  | .text s => .ok (some s)
  | _ => .error .wrongKind

def openOn (f : LogFile) (d : Disk) : Except OpenError Disk := do
  let some mode ← text? f.mode | throw .wrongKind
  let encoding ← text? f.encoding
  let errors ← text? f.errors
  let some opening := opening? mode.toList | throw .wrongValue
  if mode.toList.contains 'b' && (encoding.isSome || errors.isSome) then throw .wrongValue
  let d ← (d.openFile opening f.path).mapError .file
  if !encoding.all Text.isEncodingName then throw .unknownEncoding
  return d

end LogFile

end ServiceClient.Logging
