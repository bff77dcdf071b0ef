import ConnectorSchema.Filter.Choice
import ConnectorSchema.Filter.Escape
import ConnectorSchema.Filter.Outcome

/-!
Programs that do next to nothing: `true`, `false`, `echo`, `sleep` and `tee`.
-/

namespace ConnectorSchema.Filter.Plain

/-- Ends at once. -/
def ending (status : Nat) : Program := fun t =>
  ⟨[], [], .code status, t.input.getD [], t.files⟩

/-- Writes its arguments. -/
def echo : Program := fun t =>
  let isOption (a : Octets) : Bool :=
    match a with
    | '-' :: c :: rest => (c :: rest).all fun c => c = 'n' || c = 'e' || c = 'E'
    | _ => false
  let options := t.arguments.takeWhile isOption
  let letters := options.flatten
  let text := [' '].intercalate (t.arguments.drop options.length)
  let escapes := (letters.filter fun c => c = 'e' || c = 'E').getLast? = some 'e'
  let (text, goesOn) := if escapes then unescape text else (text, true)
  let out := if goesOn && !letters.contains 'n' then text ++ ['\n'] else text
  ⟨out, [], .code 0, t.input.getD [], t.files⟩

/-- Whether a text is a length of time. -/
def isTime (text : Octets) : Bool :=
  let digits := text.takeWhile fun c => c.isDigit || c = '.'
  let unit := text.drop digits.length
  digits.any Char.isDigit && digits.count '.' ≤ 1
    && (unit.isEmpty || unit = ['s'] || unit = ['m'] || unit = ['h'] || unit = ['d'])

/-- Waits, which nobody notices. -/
def sleep : Program := fun t =>
  match t.arguments with
  | [] => t.refuses 1 (misused t.name "missing operand")
  | times =>
    match times.find? fun time => !isTime time with
    | some time => t.refuses 1 (misused t.name ("invalid time interval " ++ quoted time))
    | none => ending 0 t

/-- Writes its input to the output and to files. -/
def tee : Program := fun t =>
  let names : ChoiceNames := ⟨['a', 'i'], [], [], [("append", 'a'), ("ignore-interrupts", 'i')]⟩
  match names.read t.arguments with
  | .error message => t.refuses 1 (misused t.name message)
  | .ok (choices, paths) =>
    let text := t.input.getD []
    let store (state : FileSystem × Octets) (path : Octets) : FileSystem × Octets :=
      if path.toText = "/dev/null" then state
      else
        let old :=
          match state.1.readBytes path.toText with
          | .ok bytes => if chosen choices 'a' then bytes else []
          | .error _ => []
        match state.1.write path.toText (old ++ text.toBytes) with
        | .ok files => (files, state.2)
        | .error e => (state.1, state.2 ++ t.remark (path.toText ++ ": " ++ e.words))
    let (files, complaints) := paths.foldl store (t.files, [])
    ⟨text, complaints, .code (if complaints.isEmpty then 0 else 1), [], files⟩

end ConnectorSchema.Filter.Plain
