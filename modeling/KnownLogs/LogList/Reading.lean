/-
Reading a log list from the bytes of a file:

* `KeyDecoder`: makes a key handle of the bytes of a key, or refuses them;
* `LogList.entry`: one log; its id must be the digest of its key, and only then is the
  key decoded;
* `LogList.document`: a whole list, its logs in order up to the first that is refused;
* `LogList.parse`: the outcome for the bytes of a file.
-/
import KnownLogs.Bytes.Utf8
import KnownLogs.Json.Reader
import KnownLogs.Log.Creation
import KnownLogs.Log.Document
import KnownLogs.LogList.Published
import KnownLogs.PublicKey.Decoder

namespace KnownLogs

/-- Makes a key handle of the bytes of a key; may refuse them, or give nothing. -/
abbrev KeyDecoder := Bytes → Except Fault (Option KeyHandle)

/-- The decoder of the keys that logs publish. -/
def KeyDecoder.standard : KeyDecoder := fun key =>
  match PublicKey.decode? key with
  | some handle => .ok (some handle)
  | none => .error .unreadableKey

namespace LogList

open Call (done fail note log ofExcept)

/-! ### JSON text -/

/-- Containers nest two hundred deep at most, and integers have 4300 digits at most. -/
def limits : Json.Limits := { depth := 200, digits := 4300 }

/-- The JSON value of a byte string in UTF-8. -/
def json? (raw : Bytes) : Option Json :=
  (Utf8.decode? raw).bind (Json.read? limits)

/-- The published log list that a byte string holds, or everything that is wrong. -/
def published (raw : Bytes) : Schema.Validated Published.LogList :=
  match json? raw with
  | some v => Published.read v
  | none => .issue .jsonUnreadable

/-! ### Entries and documents -/

/-- The entry of a published log. -/
def entry (decoder : KeyDecoder) (operator : String) (l : Published.Log) : Call Entry := do
  if logIdOf l.key ≠ l.logId then fail (.idMismatch l.description)
  else do
    note (.decoded l.key)
    let publicKey ← ofExcept id (decoder l.key)
    let interval ← ofExcept .interval (Interval.build l.start l.stop)
    ofExcept .entry <|
      Entry.Draft.check
        { logId := l.logId
          keyBytes := l.key
          publicKey
          description := l.description
          url := l.url
          operator
          status := l.status
          since := l.since
          interval
          mergeDelay := l.mergeDelay }

/-- The entries of published logs, in order. -/
def entries (decoder : KeyDecoder) (operator : String) : List Published.Log → Call (List Entry)
  | [] => done []
  | l :: rest => do
    let e ← entry decoder operator l
    let es ← entries decoder operator rest
    return e :: es

/-- The operators of a list, in order. -/
def operators (decoder : KeyDecoder) : List Published.Operator → Call (List Operator)
  | [] => done []
  | o :: rest => do
    let logs ← entries decoder o.name o.logs
    let os ← operators decoder rest
    return { name := o.name, emails := o.emails, logs } :: os

/-- The warning about an entry whose id stood before. -/
def repeatWarning (r : String × Entry) : Mark :=
  .ofEvent .warning "document.duplicate_log_id"
    [("log_id", .text (Hex.encode r.2.logId)), ("operator", .text r.1)]

/-- A document, with a warning for every entry whose id stood before. -/
def announce (d : Document) : Call Document :=
  { marks := d.repeats.map repeatWarning, result := .ok d }

/-- The document of a published log list. -/
def document (decoder : KeyDecoder) (l : Published.LogList) : Call Document := do
  let operators ← operators decoder l.operators
  announce { version := l.version, timestamp := l.timestamp, operators }

/-- The event of a list that has been read. -/
def completed (d : Document) : Mark :=
  .ofEvent .info "parser.complete"
    [("version", .text d.version), ("timestamp", .int d.timestamp),
     ("operators", .int d.operators.length), ("logs", .int d.count)]

/-- The document that a byte string holds. -/
def read (decoder : KeyDecoder) (raw : Bytes) : Call Document :=
  match published raw with
  | .invalid issues => fail (.form "log list" issues)
  | .valid l => do
    let d ← document decoder l
    note (completed d)
    return d

/-- The outcome of reading a byte string as a log list. -/
def parse (decoder : KeyDecoder) (raw : Bytes) : Call (Outcome Document) :=
  Outcome.capture .parse "Failed to parse log list" (some <$> read decoder raw)

end LogList

end KnownLogs
