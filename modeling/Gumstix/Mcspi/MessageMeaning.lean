import Gumstix.Mcspi.Configuration
import Gumstix.Mcspi.Messages
import Gumstix.Mcspi.Passages

/-!
# What a message means

A message is a sequence of pulses of the chip select: its transfers follow each other in one pulse
up to a transfer that asks for a change of the chip select, each under its own settings. The first
transfer that comes short ends the message. Nothing in this depends on earlier messages.
-/
namespace Gumstix.Mcspi
open Gumstix.Synchronization (Word)
open WordMemory (Memory storeAll)

/-- The words of a pulse, sent and received, each with the settings under which it passes. -/
abbrev PulseView := List (Word × Word) × List (Word × Word)

def PulseView.join (p q : PulseView) : PulseView := (p.1 ++ q.1, p.2 ++ q.2)

/-- The settings in force for a transfer, or for the device without one. -/
def settingsOf (d : SpiDevice) (t : Option Transfer) : Word :=
  (settings d.mode (wordLenOf d t) (speedOf d t)).value

section meaning
variable (d : SpiDevice) (isDmaMapped : Bool) (x : Transfer) (r : LineReplies)

/-- A new channel that has been prepared for a transfer. -/
def prepared : Channel :=
  .begun (wordLenOf d (some x)).toNat (transferChconf d x (wordLenOf d (some x)).toNat
    (modRegBit (setupChconf d.mode (wordLenOf d (some x)) (speedOf d (some x)) 0) chconfForce true))

/-- How much of a transfer passes. -/
def passage : Passage :=
  if x.len = 0 then ⟨0, 0, 0⟩ else (txrx x r (prepared d x) isDmaMapped).passage

def elementOf : DataType := dataType (wordLenOf d (some x)).toNat

/-- The words of a transfer. -/
def pulseOf (p : Passage) : PulseView :=
  ((wordsToSend x (elementOf d x) 0 p.sent).map (settingsOf d (some x), ·),
    (wordsReceived r 0 p.received).map (settingsOf d (some x), ·))

/-- The receive buffer after a transfer. -/
def rxBufOf (p : Passage) : Option Memory :=
  x.rxBuf.map fun rx => storeAll (elementOf d x).bytes rx 0 (wordsReceived r 0 p.received)

/-- What a message makes of the line and of its buffers; `failed` is the transfer that comes
short. -/
structure Meaning where
  pulses : List PulseView
  failed : Option Transfer
  actualLength : Word
  rxBufs : List (Option Memory)

/-- The transfers from number `i` on; `current` is the pulse that has begun. -/
def meaning (replies : Replies) : List Transfer → Nat → Option PulseView → Meaning
  | [], _, current => ⟨current.toList, none, 0, []⟩
  | x :: transfers, i, current =>
      let passed := passage d isDmaMapped x (replies i)
      let pulse := (current.getD ([], [])).join (pulseOf d x (replies i) passed)
      let rxBuf := rxBufOf d x (replies i) passed
      if passed.count = x.len then
        let rest := meaning replies transfers (i + 1) (if x.csChange then none else some pulse)
        { rest with
          pulses := (if x.csChange then [pulse] else []) ++ rest.pulses
          actualLength := passed.count + rest.actualLength
          rxBufs := rxBuf :: rest.rxBufs }
      else ⟨[pulse], some x, passed.count, [rxBuf]⟩

end meaning

end Gumstix.Mcspi
