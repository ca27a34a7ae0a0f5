namespace CyberRange.Utf8

/-! Text from bytes.

A machine reads one byte after the other.  What is no character is replaced: a
sequence that breaks off gives one replacement character, and the byte that
breaks it is looked at afresh.
-/

/-- Inside a sequence: how many bytes are still to come, the range of the next
one, and the bits read so far. -/
inductive State where
  | between
  | inside (missing : Nat) (lowest highest : Nat) (bits : Nat)
deriving Repr, DecidableEq

def replacement : Char := '\uFFFD'

/-- A byte that no sequence waits for. -/
def first (byte : Nat) : List Char × State :=
  if byte < 0x80 then ([Char.ofNat byte], .between)
  else if 0xC2 ≤ byte && byte ≤ 0xDF then ([], .inside 1 0x80 0xBF (byte % 0x20))
  else if byte = 0xE0 then ([], .inside 2 0xA0 0xBF 0)
  else if byte = 0xED then ([], .inside 2 0x80 0x9F 0xD)
  else if 0xE1 ≤ byte && byte ≤ 0xEF then ([], .inside 2 0x80 0xBF (byte % 0x10))
  else if byte = 0xF0 then ([], .inside 3 0x90 0xBF 0)
  else if 0xF1 ≤ byte && byte ≤ 0xF3 then ([], .inside 3 0x80 0xBF (byte % 8))
  else if byte = 0xF4 then ([], .inside 3 0x80 0x8F 4)
  else ([replacement], .between)

def step (state : State) (byte : Nat) : List Char × State :=
  match state with
  | .between => first byte
  | .inside missing lowest highest bits =>
      if lowest ≤ byte && byte ≤ highest then
        let more := bits * 0x40 + byte % 0x40
        if missing ≤ 1 then ([Char.ofNat more], .between)
        else ([], .inside (missing - 1) 0x80 0xBF more)
      else
        let (letters, next) := first byte
        (replacement :: letters, next)

def decodeFrom : State → List UInt8 → List Char
  | .between, [] => []
  | .inside .., [] => [replacement]
  | state, byte :: rest =>
      let (letters, next) := step state byte.toNat
      letters ++ decodeFrom next rest

def decode (bytes : List UInt8) : List Char :=
  decodeFrom .between bytes

def encode (letters : List Char) : List UInt8 :=
  letters.flatMap String.utf8EncodeChar

end CyberRange.Utf8
