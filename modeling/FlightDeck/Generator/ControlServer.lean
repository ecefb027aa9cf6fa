import FlightDeck.Lib.Framing

set_option relaxedAutoImplicit false
set_option autoImplicit false

/-!
# The simulator's control server

`ControlServer` of `generator/src/control_server.cpp`: it serves one connection at a time,
takes newline-terminated commands off the bytes it receives, sets or clears fault flags and
answers each line with one record. Text is a list of characters; a C++ `char` is the character
with its code.

## Main definitions

* `faultMask` — the flag of a fault name.
* `getline` — `std::getline` on a string stream.
* `handleCommand` — one line: the flags after it and the response.
* `receive` — one `recv` in `handle_client`: every complete line of the buffer is handled.
-/

namespace FlightDeck.Generator

/-- `kThrusterLoss`. -/
def kThrusterLoss : BitVec 32 := 1#32 <<< 0

/-- `kSensorNoise`. -/
def kSensorNoise : BitVec 32 := 1#32 <<< 1

/-- `kPacketLoss`. -/
def kPacketLoss : BitVec 32 := 1#32 <<< 2

/-- `fault_mask`. -/
def faultMask (name : List Char) : BitVec 32 :=
  if name = "thruster_loss".toList then kThrusterLoss
  else if name = "sensor_noise".toList then kSensorNoise
  else if name = "packet_loss".toList then kPacketLoss
  else 0

/-- `std::istringstream`. -/
structure InputStream where
  /-- The characters not yet extracted. -/
  rest : List Char
  /-- `good()`: neither the end of the input nor a failure has been met. -/
  good : Bool := true

/-- `std::getline(input, text, delimiter)`: the text up to the delimiter, which is extracted
too, or up to the end of the input. It fails on a stream that is not good, and at the end of the
input. -/
def getline (input : InputStream) (delimiter : Char) : Option (List Char × InputStream) :=
  if !input.good then none
  else
    match Framing.cut delimiter input.rest with
    | some (text, rest) => some (text, { rest })
    | none => if input.rest = [] then none else some (input.rest, { rest := [], good := false })

/-- The four `std::getline` calls of `handle_command`; `none` when one of them fails. -/
def readCommand (line : List Char) : Option (List Char × List Char × List Char × List Char) := do
  let (verb, input) ← getline { rest := line } '\t'
  let (id, input) ← getline input '\t'
  let (fault, input) ← getline input '\t'
  let (enabledText, _) ← getline input '\n'
  return (verb, id, fault, enabledText)

/-- `handle_command`: the flags after a line, and the response. -/
def handleCommand (faultFlags : BitVec 32) (line : List Char) : BitVec 32 × List Char :=
  match readCommand line with
  | none => (faultFlags, "ERROR\tmalformed_command\n".toList)
  | some (verb, id, fault, enabledText) =>
    if verb ≠ ['C', 'O', 'M', 'M', 'A', 'N', 'D'] ∨ id = [] then
      (faultFlags, "ERROR\tmalformed_command\n".toList)
    else
      let mask := faultMask fault
      if mask = 0 ∨ (enabledText ≠ ['0'] ∧ enabledText ≠ ['1']) then
        (faultFlags, "ERROR\tinvalid_fault\n".toList)
      else
        (if enabledText = ['1'] then faultFlags ||| mask else faultFlags &&& ~~~mask,
          ['A', 'C', 'K', '\t'] ++ id ++ ['\t'] ++ fault ++ ['\t'] ++ enabledText ++ ['\n'])

/-- The size of the buffer passed to `recv`. -/
def kReceiveSize : ℕ := 1024

/-- The flags, and the lines handled so far, each with its response. -/
structure Handled where
  /-- `fault_flags_`. -/
  faultFlags : BitVec 32
  /-- Lines and responses, in order. -/
  replies : List (List Char × List Char) := []

/-- The body of the loop over the lines of the buffer. -/
def handleLine (handled : Handled) (line : List Char) : Handled :=
  let (faultFlags, response) := handleCommand handled.faultFlags line
  { faultFlags, replies := handled.replies ++ [(line, response)] }

/-- What `handle_client` does with the bytes of one `recv`: the flags and the replies, and the
unfinished line kept in `pending`. -/
def receive (faultFlags : BitVec 32) (pending chunk : List Char) : Handled × List Char :=
  Framing.consume '\n' handleLine { faultFlags } (pending ++ chunk)

/-- A field that ends in a delimiter. -/
lemma getline_append {delimiter : Char} {text : List Char} (h : delimiter ∉ text)
    (rest : List Char) :
    getline { rest := text ++ delimiter :: rest } delimiter = some (text, { rest }) := by
  simp [getline, Framing.cut_append _ h]

/-- The last field, which ends with the input. -/
lemma getline_last {delimiter : Char} {text : List Char} (h : delimiter ∉ text)
    (hne : text ≠ []) :
    getline { rest := text } delimiter = some (text, { rest := [], good := false }) := by
  simp [getline, Framing.cut_of_not_mem _ h, hne]

/-- The fields of a line of four fields. -/
lemma readCommand_fields {verb id fault enabledText : List Char} (hverb : '\t' ∉ verb)
    (hid : '\t' ∉ id) (hfault : '\t' ∉ fault) (henabled : '\n' ∉ enabledText)
    (hne : enabledText ≠ []) :
    readCommand (verb ++ '\t' :: (id ++ '\t' :: (fault ++ '\t' :: enabledText))) =
      some (verb, id, fault, enabledText) := by
  simp [readCommand, getline_append hverb, getline_append hid, getline_append hfault,
    getline_last henabled hne]

end FlightDeck.Generator
