import LineShell.Failure
import LineShell.Span

namespace LineShell

structure OutcomeError where
  code : String
  message : String
  detail : Entries Datum

structure Outcome where
  ok : Bool
  op : String
  data : Entries Datum
  warnings : List String
  error : Option OutcomeError
  meta? : Option (Entries Datum)

namespace OutcomeError

def recordName : String := "ServiceError"

def toDatum (e : OutcomeError) : Datum :=
  .object [("code", .string e.code), ("message", .string e.message), ("detail", .object e.detail)]

def check : Datum → Checked OutcomeError :=
  Check.record recordName fun es =>
    OutcomeError.mk <$> Check.required es "code" Check.string
      <*> Check.required es "message" Check.string
      <*> Check.optional es "detail" [] Check.object

def ofCommandError (e : CommandError) : Except Exception OutcomeError :=
  (check (.object [("code", e.code), ("message", .string e.message),
    ("detail", e.detail)])).toExcept.mapError (.invalid recordName)

def actionFailed : String := "ACTION_FAILED"

def ofException (name : String) : Exception → Except Exception OutcomeError
  | .command e => ofCommandError e
  | e =>
    .ok ⟨actionFailed, "Command '" ++ name ++ "' failed: " ++ e.message,
      [("name", .string name), ("exception", .string e.kind)]⟩

end OutcomeError

namespace Outcome

def success (op : String) (data : Entries Datum) : Outcome :=
  ⟨true, op, data, [], none, none⟩

def failure (op : String) (error : OutcomeError) : Outcome :=
  ⟨false, op, [], [], some error, none⟩

def recordName : String := "ServiceResult"

def check : Datum → Checked Outcome :=
  Check.record recordName fun es =>
    Outcome.mk <$> Check.required es "ok" Check.bool
      <*> Check.required es "op" Check.string
      <*> Check.optional es "data" [] Check.object
      <*> Check.optional es "warnings" [] (Check.list Check.string)
      <*> Check.optional es "error" none (Check.nullable OutcomeError.check)
      <*> Check.optional es "meta" none (Check.nullable Check.object)

def toDatum (o : Outcome) : Datum :=
  .object [("ok", .bool o.ok), ("op", .string o.op), ("data", .object o.data),
    ("warnings", .strings o.warnings),
    ("error", match o.error with
      | some e => e.toDatum
      | none => .null),
    ("meta", match o.meta? with
      | some m => .object m
      | none => .null)]

def withSpan (o : Outcome) (span : Datum) : Outcome :=
  { o with meta? := some ((o.meta?.getD []).set "telemetry" span) }

end Outcome

end LineShell
