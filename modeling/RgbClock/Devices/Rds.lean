import RgbClock.Lib.Run
import Mathlib.Data.List.DropRight

/-! The RDS decoder of the FM receiver: `readRDSInfo` collects the segments of a radio text in one
record and publishes the text from there. -/

namespace RgbClock.Devices
open Runs

/-- The character `~` marks what has not been received yet. -/
def EMPTY_CHAR : UInt8 := 126
def CARRIAGE_RETURN : UInt8 := 13
def SPACE : UInt8 := 32

def Block_B_H : Fin 13 := 6
def Block_B_L : Fin 13 := 7
def Block_C_H : Fin 13 := 8
def Block_D_H : Fin 13 := 10
def Block_D_L : Fin 13 := 11

inductive TextType where
  | unknown | typeA | typeB
  deriving DecidableEq

def ABToTextType (ab : Bool) : TextType := if ab then .typeA else .typeB

structure RDSInfo where
  mValidRds : Bool := false
  mStationName : List UInt8 := List.replicate 8 SPACE
  mText : List UInt8 := List.replicate 65 SPACE
  mTextType : TextType := .unknown
  deriving DecidableEq

namespace RDSInfo

def filler (fillSpecial : Bool) : UInt8 := if fillSpecial then EMPTY_CHAR else SPACE

def clearStationName (info : RDSInfo) (fillSpecial : Bool) : RDSInfo :=
  { info with mStationName := List.replicate 8 (filler fillSpecial) }

def clearText (info : RDSInfo) (fillSpecial : Bool) : RDSInfo :=
  { info with mText := List.replicate 65 (filler fillSpecial) }

def clearAll (info : RDSInfo) (fillSpecial : Bool) : RDSInfo :=
  (info.clearStationName fillSpecial).clearText fillSpecial

def textComplete (info : RDSInfo) : Bool := !info.mText.contains EMPTY_CHAR

def stationNameComplete (info : RDSInfo) : Bool := !info.mStationName.contains EMPTY_CHAR

/-- Another text type than before starts a new text. -/
def retype (info : RDSInfo) (type : TextType) : RDSInfo :=
  if info.mTextType ≠ type then { info.clearAll true with mTextType := type } else info

end RDSInfo

def whiteSpaces : List UInt8 := [32, 12, 10, 13, 9, 11]

def trim (str : List UInt8) : List UInt8 :=
  (str.rdropWhile fun c => whiteSpaces.contains c).dropWhile fun c => whiteSpaces.contains c

/-- The thirteen bytes that answer `FM_RDS_STATUS`. -/
abbrev RdsResponse := Fin 13 → UInt8

def RdsResponse.byte (response : RdsResponse) (i : Nat) : Option UInt8 :=
  if inside : i < 13 then some (response ⟨i, inside⟩) else none

structure FMReceiver where
  mRDSInfo : RDSInfo := {}
  mReceivingRDSInfo : RDSInfo := {}
  deriving DecidableEq

namespace FMReceiver

/-- Two characters of the station name. -/
def nameBytes (receiving : RDSInfo) (response : RdsResponse) : RDSInfo :=
  let pos := (response Block_B_L &&& 0b00000011).toNat * 2
  { receiving with
    mStationName :=
      if pos + 1 < receiving.mStationName.length % 256 then
        (receiving.mStationName.set pos (response Block_D_H)).set (pos + 1) (response Block_D_L)
      else receiving.mStationName }

def stationName (receiver : FMReceiver) (response : RdsResponse) : FMReceiver :=
  let receiving := nameBytes receiver.mReceivingRDSInfo response
  if receiving.stationNameComplete ∧ trim receiver.mRDSInfo.mStationName ≠ trim receiving.mStationName then
    { mRDSInfo := { receiver.mRDSInfo with mStationName := trim receiving.mStationName, mValidRds := true }
      mReceivingRDSInfo := receiving }
  else { receiver with mReceivingRDSInfo := receiving }

/-- One character of a text group. -/
def textByte (receiver : FMReceiver) (type : TextType) (textPos : Nat) (received : Option UInt8) : FMReceiver :=
  let receiving := receiver.mReceivingRDSInfo.retype type
  match received with
  | none => { receiver with mReceivingRDSInfo := receiving }
  | some c =>
    if c = CARRIAGE_RETURN then
      let receiving := { receiving with mText := receiving.mText.take textPos }
      if receiving.textComplete ∧ receiver.mRDSInfo.mText ≠ receiving.mText then
        { mRDSInfo := { receiver.mRDSInfo with mText := receiving.mText, mTextType := receiving.mTextType }
          mReceivingRDSInfo := receiving.clearText true }
      else { receiver with mReceivingRDSInfo := receiving }
    else
      -- a position behind the end of the text is left out, as `set` does
      { receiver with mReceivingRDSInfo := { receiving with mText := receiving.mText.set textPos c } }

/-- The first `n` characters of a text group. -/
def textBytes (receiver : FMReceiver) (response : RdsResponse) (n : Nat) : FMReceiver :=
  let new_ab := decide (response Block_B_L &&& 0b00010000 ≠ 0)
  let segment := (response Block_B_L &&& 0x0F).toNat
  let version := decide (response Block_B_H &&& 0b00001000 ≠ 0)
  let count := if version then 2 else 4
  let startPos := if version then Block_D_H else Block_C_H
  (List.range n).foldl (fun receiver pos =>
    receiver.textByte (ABToTextType new_ab) (segment * count + pos) (response.byte (startPos.val + pos))) receiver

/-- The body of the loop of `readRDSInfo`. -/
def group (receiver : FMReceiver) (response : RdsResponse) : FMReceiver :=
  -- Only if no errors found.
  if response 12 ≠ 0 then receiver
  -- If not RDSSync.
  else if response Block_B_H &&& 0x01 = 0 then { receiver with mRDSInfo := { receiver.mRDSInfo with mText := [] } }
  else if response Block_B_H >>> 4 = 0 then receiver.stationName response
  else if response Block_B_H >>> 4 = 2 then receiver.textBytes response (if response Block_B_H &&& 0b00001000 ≠ 0 then 2 else 4)
  else receiver

/-- Whether the loop goes on after this response. -/
def goesOn (response : RdsResponse) : Bool :=
  response 12 = 0 && response Block_B_H &&& 0x01 ≠ 0 && response 3 > 0

/-- One call, on the responses that the chip has for it; the rest stays for later calls. -/
def readRDSInfo (receiver : FMReceiver) : List RdsResponse → FMReceiver × List RdsResponse
  | [] => (receiver, [])
  | response :: rest =>
    if goesOn response then (receiver.group response).readRDSInfo rest else (receiver.group response, rest)

/-- A call handles one response after the other, and leaves the others as they are. -/
theorem readRDSInfo_eq (receiver : FMReceiver) (responses : List RdsResponse) :
    ∃ n, receiver.readRDSInfo responses = (stateAt group receiver responses n, responses.drop n) := by
  induction responses generalizing receiver with
  | nil => exact ⟨0, rfl⟩
  | cons response rest ih =>
    rw [readRDSInfo]
    split
    · obtain ⟨n, later⟩ := ih (receiver.group response)
      exact ⟨n + 1, later⟩
    · exact ⟨1, rfl⟩

end FMReceiver

/-! ### A text on the air -/

/-- What is sent for a text: the text, a carriage return, and padding up to the end of a segment. -/
def message (t padding : List UInt8) : List UInt8 := t ++ CARRIAGE_RETURN :: padding

structure Broadcast (t padding : List UInt8) : Prop where
  short : t.length ≤ 63
  plain : ∀ c ∈ t, c ≠ CARRIAGE_RETURN ∧ c ≠ EMPTY_CHAR
  padded : ∀ c ∈ padding, c ≠ CARRIAGE_RETURN
  whole : (message t padding).length % 4 = 0 ∧ (message t padding).length ≤ 64

/-- The response is an error-free group 2A with a segment of the message. -/
structure Carries (t padding : List UInt8) (ab : Bool) (segment : Nat) (response : RdsResponse) : Prop where
  clean : response 12 = 0
  sync : response Block_B_H &&& 0x01 ≠ 0
  kind : response Block_B_H >>> 4 = 2
  versionA : response Block_B_H &&& 0b00001000 = 0
  flag : decide (response Block_B_L &&& 0b00010000 ≠ 0) = ab
  numbered : (response Block_B_L &&& 0x0F).toNat = segment
  inside : 4 * segment + 3 < (message t padding).length
  bytes : ∀ pos < 4, response.byte (Block_C_H.val + pos) = (message t padding)[4 * segment + pos]?

/-- A response with errors, or a group of another kind. -/
def Foreign (response : RdsResponse) : Prop :=
  response 12 ≠ 0 ∨ response Block_B_H &&& 0x01 ≠ 0 ∧ response Block_B_H >>> 4 ≠ 2

/-- The segment with the carriage return. -/
def lastSegment (t : List UInt8) : Nat := t.length / 4

theorem message_text {t padding : List UInt8} {i : Nat} (inside : i < t.length) : (message t padding)[i]? = t[i]? :=
  List.getElem?_append_left inside

theorem message_return (t padding : List UInt8) : (message t padding)[t.length]? = some CARRIAGE_RETURN := by
  unfold message
  rw [List.getElem?_append_right (Nat.le_refl _), Nat.sub_self]
  rfl

/-- The only carriage return of the message is the one behind the text. -/
theorem eq_length_of_return {t padding : List UInt8} (broadcast : Broadcast t padding) {i : Nat}
    (found : (message t padding)[i]? = some CARRIAGE_RETURN) : i = t.length := by
  obtain before | same | behind := Nat.lt_trichotomy i t.length
  · rw [message_text before] at found
    exact absurd rfl (broadcast.plain _ (List.mem_of_getElem? found)).1
  · exact same
  · unfold message at found
    rw [List.getElem?_append_right (Nat.le_of_lt behind)] at found
    obtain ⟨j, step⟩ := Nat.exists_eq_add_of_lt behind
    rw [show i - t.length = j + 1 from by omega, List.getElem?_cons_succ] at found
    exact absurd rfl (broadcast.padded _ (List.mem_of_getElem? found))

/-! ### Gathering the text -/

section
variable {t padding : List UInt8} {old : List UInt8} {type : TextType} {got : Nat → Prop}

/-- Where the decoder stands while it receives `t`: each position of `t` is empty or right, and those that
were received are right unless the text has been published. -/
structure Gathering (t old : List UInt8) (type : TextType) (got : Nat → Prop) (receiver : FMReceiver) : Prop where
  typed : receiver.mReceivingRDSInfo.mTextType = type
  text : receiver.mRDSInfo.mText = old ∨ receiver.mRDSInfo.mText = t
  filled : ∀ i < t.length, receiver.mReceivingRDSInfo.mText[i]? = some EMPTY_CHAR ∨
    receiver.mReceivingRDSInfo.mText[i]? = t[i]?
  kept : ∀ i < t.length, got i → receiver.mRDSInfo.mText = t ∨ receiver.mReceivingRDSInfo.mText[i]? = t[i]?

/-- The receiver with the text type of the groups that now arrive. -/
def FMReceiver.retyped (receiver : FMReceiver) (type : TextType) : FMReceiver :=
  { receiver with mReceivingRDSInfo := receiver.mReceivingRDSInfo.retype type }

theorem retype_typed {info : RDSInfo} (typed : info.mTextType = type) : info.retype type = info := by
  unfold RDSInfo.retype
  rw [if_neg (not_not_intro typed)]

theorem retyped_twice (receiver : FMReceiver) (type : TextType) :
    (receiver.retyped type).mReceivingRDSInfo.retype type = receiver.mReceivingRDSInfo.retype type := by
  apply retype_typed
  show (receiver.mReceivingRDSInfo.retype type).mTextType = type
  unfold RDSInfo.retype
  split
  · rfl
  · rename_i typed
    exact not_not.mp typed

theorem textByte_retyped (receiver : FMReceiver) (type : TextType) (textPos : Nat) (received : Option UInt8) :
    receiver.textByte type textPos received = (receiver.retyped type).textByte type textPos received := by
  unfold FMReceiver.textByte
  rw [retyped_twice]
  rfl

theorem getElem?_cleared {i : Nat} (short : t.length ≤ 63) (inside : i < t.length) :
    (List.replicate 65 (RDSInfo.filler true))[i]? = some EMPTY_CHAR := by
  rw [List.getElem?_replicate, if_pos (by omega)]
  rfl

/-- The first of the groups finds an empty text. -/
theorem gathering_retyped (broadcast : Broadcast t padding) {receiver : FMReceiver}
    (other : receiver.mReceivingRDSInfo.mTextType ≠ type) :
    Gathering t receiver.mRDSInfo.mText type (fun _ => False) (receiver.retyped type) := by
  have fresh : (receiver.retyped type).mReceivingRDSInfo =
      { receiver.mReceivingRDSInfo.clearAll true with mTextType := type } := if_pos other
  refine ⟨?_, Or.inl rfl, fun i inside => Or.inl ?_, fun _ _ none => none.elim⟩
  · rw [fresh]
  · rw [fresh]
    exact getElem?_cleared broadcast.short inside

/-- A buffer without gaps that is cut behind the text is the text. -/
theorem take_eq_text {buffer : List UInt8}
    (right : ∀ i < t.length, buffer[i]? = t[i]?) : buffer.take t.length = t := by
  apply List.ext_getElem?
  intro i
  rw [List.getElem?_take]
  split
  · rename_i inside
    exact right i inside
  · rename_i outside
    rw [List.getElem?_eq_none (Nat.not_lt.mp outside)]

theorem right_of_complete {buffer : List UInt8}
    (filled : ∀ i < t.length, buffer[i]? = some EMPTY_CHAR ∨ buffer[i]? = t[i]?)
    (complete : (buffer.take t.length).contains EMPTY_CHAR = false) : ∀ i < t.length, buffer[i]? = t[i]? := by
  intro i inside
  obtain gap | right := filled i inside
  · have member : EMPTY_CHAR ∈ buffer.take t.length := by
      apply List.mem_of_getElem? (i := i)
      rw [List.getElem?_take, if_pos inside, gap]
    rw [List.contains_iff_mem.mpr member] at complete
    cases complete
  · exact right

theorem Gathering.long {receiver : FMReceiver} (gathering : Gathering t old type got receiver) {i : Nat}
    (inside : i < t.length) : i < receiver.mReceivingRDSInfo.mText.length := by
  by_contra outside
  have none := List.getElem?_eq_none (Nat.not_lt.mp outside)
  obtain gap | right := gathering.filled i inside
  · rw [none] at gap
    cases gap
  · rw [none, List.getElem?_eq_getElem inside] at right
    cases right

/-- What a carriage return does, once the type is that of the text. -/
theorem textByte_return {receiver : FMReceiver} (typed : receiver.mReceivingRDSInfo.mTextType = type) (textPos : Nat) :
    receiver.textByte type textPos (some CARRIAGE_RETURN) =
      if (receiver.mReceivingRDSInfo.mText.take textPos).contains EMPTY_CHAR = false ∧
          receiver.mRDSInfo.mText ≠ receiver.mReceivingRDSInfo.mText.take textPos then
        { mRDSInfo := { receiver.mRDSInfo with mText := receiver.mReceivingRDSInfo.mText.take textPos, mTextType := type }
          mReceivingRDSInfo :=
            { receiver.mReceivingRDSInfo with mText := List.replicate 65 (RDSInfo.filler true) } }
      else
        { receiver with mReceivingRDSInfo :=
            { receiver.mReceivingRDSInfo with mText := receiver.mReceivingRDSInfo.mText.take textPos } } := by
  unfold FMReceiver.textByte
  rw [retype_typed typed, ← typed]
  simp only [if_true, RDSInfo.textComplete, Bool.not_eq_true']
  rfl

theorem textByte_plain {receiver : FMReceiver} (typed : receiver.mReceivingRDSInfo.mTextType = type) (textPos : Nat)
    {c : UInt8} (plain : c ≠ CARRIAGE_RETURN) :
    receiver.textByte type textPos (some c) =
      { receiver with mReceivingRDSInfo :=
          { receiver.mReceivingRDSInfo with mText := receiver.mReceivingRDSInfo.mText.set textPos c } } := by
  unfold FMReceiver.textByte
  rw [retype_typed typed]
  exact if_neg plain

variable {receiver : FMReceiver}

theorem Gathering.return (broadcast : Broadcast t padding) (gathering : Gathering t old type got receiver) :
    Gathering t old type (fun i => got i ∨ i = t.length)
      (receiver.textByte type t.length (some CARRIAGE_RETURN)) := by
  rw [textByte_return gathering.typed]
  split
  · rename_i met
    have whole := take_eq_text (right_of_complete gathering.filled met.1)
    exact ⟨gathering.typed, Or.inr whole, fun i inside => Or.inl (getElem?_cleared broadcast.short inside),
      fun _ _ _ => Or.inl whole⟩
  · have cut : ∀ i < t.length, (receiver.mReceivingRDSInfo.mText.take t.length)[i]? =
        receiver.mReceivingRDSInfo.mText[i]? := by
      intro i inside
      rw [List.getElem?_take, if_pos inside]
    refine ⟨gathering.typed, gathering.text, fun i inside => ?_, fun i inside received => ?_⟩
    · show (receiver.mReceivingRDSInfo.mText.take t.length)[i]? = _ ∨ (receiver.mReceivingRDSInfo.mText.take t.length)[i]? = _
      rw [cut i inside]
      exact gathering.filled i inside
    · show _ ∨ (receiver.mReceivingRDSInfo.mText.take t.length)[i]? = _
      rw [cut i inside]
      obtain before | now := received
      · exact gathering.kept i inside before
      · omega

theorem Gathering.plain (gathering : Gathering t old type got receiver) {textPos : Nat} {c : UInt8}
    (found : (message t padding)[textPos]? = some c) (plain : c ≠ CARRIAGE_RETURN) :
    Gathering t old type (fun i => got i ∨ i = textPos) (receiver.textByte type textPos (some c)) := by
  rw [textByte_plain gathering.typed textPos plain]
  -- the position itself becomes right, the others stay
  have now : textPos < t.length → (receiver.mReceivingRDSInfo.mText.set textPos c)[textPos]? = t[textPos]? := by
    intro inside
    rw [List.getElem?_set_self (gathering.long inside), ← message_text inside, found]
  have others : ∀ i, i ≠ textPos → (receiver.mReceivingRDSInfo.mText.set textPos c)[i]? =
      receiver.mReceivingRDSInfo.mText[i]? := fun i other => List.getElem?_set_ne other.symm
  refine ⟨gathering.typed, gathering.text, fun i inside => ?_, fun i inside received => ?_⟩
  · show (receiver.mReceivingRDSInfo.mText.set textPos c)[i]? = _ ∨ (receiver.mReceivingRDSInfo.mText.set textPos c)[i]? = _
    by_cases here : i = textPos
    · subst here
      exact Or.inr (now inside)
    · rw [others i here]
      exact gathering.filled i inside
  · show _ ∨ (receiver.mReceivingRDSInfo.mText.set textPos c)[i]? = _
    by_cases here : i = textPos
    · subst here
      exact Or.inr (now inside)
    · rw [others i here]
      exact gathering.kept i inside (received.resolve_right here)

theorem Gathering.textByte (broadcast : Broadcast t padding) (gathering : Gathering t old type got receiver)
    {textPos : Nat} (inside : textPos < (message t padding).length) :
    Gathering t old type (fun i => got i ∨ i = textPos)
      (receiver.textByte type textPos (message t padding)[textPos]?) := by
  have found := List.getElem?_eq_getElem inside
  rw [found]
  by_cases back : (message t padding)[textPos] = CARRIAGE_RETURN
  · rw [back] at found ⊢
    obtain rfl := eq_length_of_return broadcast found
    exact gathering.return broadcast
  · exact gathering.plain found back

/-- Once every position has been received, the carriage return publishes the text. -/
theorem Gathering.published (broadcast : Broadcast t padding) (gathering : Gathering t old type got receiver)
    (all : ∀ i < t.length, got i) :
    (receiver.textByte type t.length (some CARRIAGE_RETURN)).mRDSInfo.mText = t := by
  rw [textByte_return gathering.typed]
  split
  · rename_i met
    exact take_eq_text (right_of_complete gathering.filled met.1)
  · rename_i unmet
    show receiver.mRDSInfo.mText = t
    by_contra different
    have whole := take_eq_text fun i inside => (gathering.kept i inside (all i inside)).resolve_left different
    have complete : t.contains EMPTY_CHAR = false := by
      rw [← Bool.not_eq_true, List.contains_iff_mem]
      exact fun member => (broadcast.plain _ member).2 rfl
    rw [whole] at unmet
    exact unmet ⟨complete, different⟩

/-- A text that has been published stays. -/
theorem Gathering.stays (gathering : Gathering t old type got receiver) (broadcast : Broadcast t padding)
    (done : receiver.mRDSInfo.mText = t) {textPos : Nat} (inside : textPos < (message t padding).length) :
    (receiver.textByte type textPos (message t padding)[textPos]?).mRDSInfo.mText = t := by
  have found := List.getElem?_eq_getElem inside
  rw [found]
  by_cases back : (message t padding)[textPos] = CARRIAGE_RETURN
  · rw [back] at found ⊢
    obtain rfl := eq_length_of_return broadcast found
    rw [textByte_return gathering.typed]
    split
    · rename_i met
      exact take_eq_text (right_of_complete gathering.filled met.1)
    · exact done
  · rw [textByte_plain gathering.typed textPos back]
    exact done

theorem Gathering.mono {more : Nat → Prop} (gathering : Gathering t old type got receiver) (fewer : ∀ i, more i → got i) :
    Gathering t old type more receiver :=
  ⟨gathering.typed, gathering.text, gathering.filled, fun i inside received =>
    gathering.kept i inside (fewer i received)⟩

end

/-! ### Groups -/

section
variable {t padding : List UInt8} {old : List UInt8} {ab : Bool} {got : Nat → Prop} {receiver : FMReceiver}
  {segment : Nat} {response : RdsResponse}

theorem textBytes_succ (carries : Carries t padding ab segment response) (receiver : FMReceiver) {n : Nat} (few : n < 4) :
    receiver.textBytes response (n + 1) =
      (receiver.textBytes response n).textByte (ABToTextType ab) (4 * segment + n)
        (message t padding)[4 * segment + n]? := by
  have versionA : decide (response Block_B_H &&& 0b00001000 ≠ 0) = false := decide_eq_false (not_not_intro carries.versionA)
  unfold FMReceiver.textBytes
  rw [List.range_succ, List.foldl_append, carries.flag, carries.numbered, versionA, ← carries.bytes n few,
    Nat.mul_comm 4 segment]
  rfl

/-- The first character of a group sets the type. -/
theorem textBytes_retyped (carries : Carries t padding ab segment response) (receiver : FMReceiver) {n : Nat}
    (few : n < 4) :
    receiver.textBytes response (n + 1) = (receiver.retyped (ABToTextType ab)).textBytes response (n + 1) := by
  induction n with
  | zero =>
    rw [textBytes_succ carries _ few, textBytes_succ carries _ few]
    exact textByte_retyped _ _ _ _
  | succ n ih => rw [textBytes_succ carries _ few, textBytes_succ carries _ few, ih (by omega)]

theorem Gathering.textBytes (broadcast : Broadcast t padding) (carries : Carries t padding ab segment response)
    (gathering : Gathering t old (ABToTextType ab) got receiver) {n : Nat} (few : n ≤ 4) :
    Gathering t old (ABToTextType ab) (fun i => got i ∨ 4 * segment ≤ i ∧ i < 4 * segment + n)
      (receiver.textBytes response n) := by
  induction n with
  | zero => exact gathering.mono fun i received => received.resolve_right (by omega)
  | succ n ih =>
    rw [textBytes_succ carries _ few]
    have inside := carries.inside
    refine ((ih (by omega)).textByte broadcast (by omega)).mono fun i received => ?_
    obtain before | now := received
    · exact Or.inl (Or.inl before)
    · by_cases last : i = 4 * segment + n
      · exact Or.inr last
      · exact Or.inl (Or.inr (by omega))

theorem Gathering.textBytes_stays (broadcast : Broadcast t padding) (carries : Carries t padding ab segment response)
    (gathering : Gathering t old (ABToTextType ab) got receiver) (done : receiver.mRDSInfo.mText = t) {n : Nat}
    (few : n ≤ 4) : (receiver.textBytes response n).mRDSInfo.mText = t := by
  induction n with
  | zero => exact done
  | succ n ih =>
    have inside := carries.inside
    rw [textBytes_succ carries _ few]
    exact (gathering.textBytes broadcast carries (by omega)).stays broadcast (ih (by omega)) (by omega)

/-- The last segment publishes a text of which everything has been received. -/
theorem Gathering.textBytes_published (broadcast : Broadcast t padding)
    (carries : Carries t padding ab (lastSegment t) response)
    (gathering : Gathering t old (ABToTextType ab) got receiver) (all : ∀ i < t.length, got i) :
    (receiver.textBytes response 4).mRDSInfo.mText = t := by
  have upTo : ∀ n, t.length - 4 * lastSegment t < n → n ≤ 4 → (receiver.textBytes response n).mRDSInfo.mText = t := by
    intro n
    induction n with
    | zero => exact fun below => absurd below (Nat.not_lt_zero _)
    | succ n ih =>
      intro below few
      have before := gathering.textBytes broadcast carries (n := n) (by omega)
      rw [textBytes_succ carries _ few]
      by_cases here : t.length - 4 * lastSegment t = n
      · have place : 4 * lastSegment t + n = t.length := by
          unfold lastSegment at here ⊢
          omega
        rw [place, message_return]
        exact before.published broadcast fun i inside => Or.inl (all i inside)
      · have inside := carries.inside
        exact before.stays broadcast (ih (by omega) (by omega)) (by omega)
  apply upTo 4 _ (Nat.le_refl 4)
  unfold lastSegment
  omega

theorem group_carries (carries : Carries t padding ab segment response) (receiver : FMReceiver) :
    receiver.group response = receiver.textBytes response 4 := by
  unfold FMReceiver.group
  rw [if_neg (not_not_intro carries.clean), if_neg carries.sync, carries.kind, if_neg (by decide), if_pos rfl,
    if_neg (not_not_intro carries.versionA)]

theorem Carries.not_foreign (carries : Carries t padding ab segment response) : ¬ Foreign response := by
  intro given
  obtain errors | ⟨_, other⟩ := given
  · exact errors carries.clean
  · exact other carries.kind

theorem stationName_text (receiver : FMReceiver) (response : RdsResponse) :
    (receiver.stationName response).mRDSInfo.mText = receiver.mRDSInfo.mText ∧
      (receiver.stationName response).mReceivingRDSInfo.mText = receiver.mReceivingRDSInfo.mText ∧
      (receiver.stationName response).mReceivingRDSInfo.mTextType = receiver.mReceivingRDSInfo.mTextType := by
  unfold FMReceiver.stationName
  dsimp only
  split <;> exact ⟨rfl, rfl, rfl⟩

theorem group_foreign (foreign : Foreign response) (receiver : FMReceiver) :
    (receiver.group response).mRDSInfo.mText = receiver.mRDSInfo.mText ∧
      (receiver.group response).mReceivingRDSInfo.mText = receiver.mReceivingRDSInfo.mText ∧
      (receiver.group response).mReceivingRDSInfo.mTextType = receiver.mReceivingRDSInfo.mTextType := by
  unfold FMReceiver.group
  obtain errors | ⟨sync, other⟩ := foreign
  · rw [if_pos errors]
    exact ⟨rfl, rfl, rfl⟩
  · by_cases errors : response 12 ≠ 0
    · rw [if_pos errors]
      exact ⟨rfl, rfl, rfl⟩
    rw [if_neg errors, if_neg sync]
    by_cases name : response Block_B_H >>> 4 = 0
    · rw [if_pos name]
      exact stationName_text receiver response
    · rw [if_neg name, if_neg other]
      exact ⟨rfl, rfl, rfl⟩

theorem Gathering.foreign (gathering : Gathering t old (ABToTextType ab) got receiver) (foreign : Foreign response) :
    Gathering t old (ABToTextType ab) got (receiver.group response) := by
  obtain ⟨text, buffer, typed⟩ := group_foreign foreign receiver
  obtain ⟨typed', text', filled, kept⟩ := gathering
  refine ⟨typed.trans typed', ?_, ?_, ?_⟩
  · rwa [text]
  · rwa [buffer]
  · rwa [text, buffer]

end

/-! ### Any order of the groups -/

section
variable {t padding : List UInt8} {old : List UInt8} {ab : Bool}

/-- A group of the broadcast, or one that has nothing to do with it. -/
def OnAir (t padding : List UInt8) (ab : Bool) (response : RdsResponse) : Prop :=
  (∃ segment, Carries t padding ab segment response) ∨ Foreign response

/-- Where the decoder stands after these responses. -/
inductive Standing (t padding old : List UInt8) (ab : Bool) (responses : List RdsResponse) (receiver : FMReceiver) :
    Prop where
  | waiting (other : receiver.mReceivingRDSInfo.mTextType ≠ ABToTextType ab) (text : receiver.mRDSInfo.mText = old)
      (none : ∀ response ∈ responses, ∀ segment, ¬ Carries t padding ab segment response)
  | gathering (gathering : Gathering t old (ABToTextType ab)
      (fun i => ∃ response ∈ responses, Carries t padding ab (i / 4) response) receiver)

/-- Before the characters of a group the type is that of the text. -/
theorem Standing.retyped (broadcast : Broadcast t padding) {responses : List RdsResponse} {receiver : FMReceiver}
    (standing : Standing t padding old ab responses receiver) :
    Gathering t old (ABToTextType ab) (fun i => ∃ response ∈ responses, Carries t padding ab (i / 4) response)
      (receiver.retyped (ABToTextType ab)) := by
  cases standing with
  | waiting other text none =>
    rw [← text]
    refine (gathering_retyped broadcast other).mono fun i received => ?_
    obtain ⟨response, member, carries⟩ := received
    exact none response member _ carries
  | gathering gathering =>
    have same : receiver.retyped (ABToTextType ab) = receiver := by
      unfold FMReceiver.retyped
      rw [retype_typed gathering.typed]
    rwa [same]

theorem Standing.text {responses : List RdsResponse} {receiver : FMReceiver}
    (standing : Standing t padding old ab responses receiver) :
    receiver.mRDSInfo.mText = old ∨ receiver.mRDSInfo.mText = t := by
  cases standing with
  | waiting _ text => exact Or.inl text
  | gathering gathering => exact gathering.text

theorem Standing.step (broadcast : Broadcast t padding) {responses : List RdsResponse} {receiver : FMReceiver}
    (standing : Standing t padding old ab responses receiver) {response : RdsResponse}
    (onAir : OnAir t padding ab response) :
    Standing t padding old ab (responses ++ [response]) (receiver.group response) := by
  obtain ⟨segment, carries⟩ | foreign := onAir
  · rw [group_carries carries, textBytes_retyped carries _ (by decide : 3 < 4)]
    refine .gathering (((standing.retyped broadcast).textBytes broadcast carries (Nat.le_refl 4)).mono ?_)
    intro i received
    obtain ⟨other, member, carried⟩ := received
    obtain before | now := List.mem_append.mp member
    · exact Or.inl ⟨other, before, carried⟩
    · obtain rfl := List.mem_singleton.mp now
      have same := carried.numbered.symm.trans carries.numbered
      exact Or.inr (by omega)
  · have unseen : ∀ segment, ¬ Carries t padding ab segment response := fun _ carries => carries.not_foreign foreign
    cases standing with
    | waiting other text none =>
      obtain ⟨text', _, typed⟩ := group_foreign foreign receiver
      refine .waiting (typed ▸ other) (text'.trans text) fun response' member segment carries => ?_
      obtain before | now := List.mem_append.mp member
      · exact none response' before segment carries
      · obtain rfl := List.mem_singleton.mp now
        exact unseen segment carries
    | gathering gathering =>
      refine .gathering ((gathering.foreign foreign).mono fun i received => ?_)
      obtain ⟨other, member, carried⟩ := received
      obtain before | now := List.mem_append.mp member
      · exact ⟨other, before, carried⟩
      · obtain rfl := List.mem_singleton.mp now
        exact absurd carried (unseen _)

theorem standing_run (broadcast : Broadcast t padding) {receiver : FMReceiver}
    (other : receiver.mReceivingRDSInfo.mTextType ≠ ABToTextType ab) {responses : List RdsResponse}
    (onAir : ∀ response ∈ responses, OnAir t padding ab response) :
    Standing t padding receiver.mRDSInfo.mText ab responses (run FMReceiver.group receiver responses) := by
  induction responses using List.reverseRecOn with
  | nil => exact .waiting other rfl fun _ member => by cases member
  | append_singleton front last ih =>
    rw [run_concat]
    apply Standing.step broadcast
    · exact ih fun response member => onAir response (List.mem_append_left _ member)
    · exact onAir last (by simp)

variable {receiver : FMReceiver} {responses : List RdsResponse}

/-- Within the characters of a group too, the text is the old one or the whole new one. -/
theorem Standing.textBytes (broadcast : Broadcast t padding) (standing : Standing t padding old ab responses receiver)
    {segment : Nat} {response : RdsResponse} (carries : Carries t padding ab segment response) {n : Nat} (few : n ≤ 4) :
    (receiver.textBytes response n).mRDSInfo.mText = old ∨ (receiver.textBytes response n).mRDSInfo.mText = t := by
  cases n with
  | zero => exact standing.text
  | succ n =>
    rw [textBytes_retyped carries _ few]
    exact ((standing.retyped broadcast).textBytes broadcast carries few).text

/-- A published text stays while the groups go on. -/
theorem published_stays (broadcast : Broadcast t padding)
    {before : List RdsResponse} (standing : Standing t padding old ab before receiver)
    (onAir : ∀ response ∈ responses, OnAir t padding ab response) (done : receiver.mRDSInfo.mText = t) :
    (run FMReceiver.group receiver responses).mRDSInfo.mText = t := by
  induction responses generalizing before receiver with
  | nil => exact done
  | cons response rest ih =>
    have here := onAir response (by simp)
    rw [run_cons]
    apply ih (standing.step broadcast here) (fun later member => onAir later (List.mem_cons_of_mem _ member))
    obtain ⟨segment, carries⟩ | foreign := here
    · rw [group_carries carries, textBytes_retyped carries _ (by decide : 3 < 4)]
      exact (standing.retyped broadcast).textBytes_stays broadcast carries done (Nat.le_refl 4)
    · exact (group_foreign foreign receiver).1.trans done

/-- In whatever order the groups of a text arrive, the text that is shown is the one before or the new one;
and it is the new one once all segments have been received and the last one again after them. -/
theorem radio_text (broadcast : Broadcast t padding)
    (other : receiver.mReceivingRDSInfo.mTextType ≠ ABToTextType ab)
    (onAir : ∀ response ∈ responses, OnAir t padding ab response) :
    (∀ n, (stateAt FMReceiver.group receiver responses n).mRDSInfo.mText = receiver.mRDSInfo.mText ∨
      (stateAt FMReceiver.group receiver responses n).mRDSInfo.mText = t) ∧
    (∀ n response segment, responses[n]? = some response → Carries t padding ab segment response → ∀ k ≤ 4,
      ((stateAt FMReceiver.group receiver responses n).textBytes response k).mRDSInfo.mText = receiver.mRDSInfo.mText ∨
        ((stateAt FMReceiver.group receiver responses n).textBytes response k).mRDSInfo.mText = t) ∧
    ∀ front last back, responses = front ++ last :: back →
      (∀ segment, 4 * segment < (message t padding).length → ∃ response ∈ front, Carries t padding ab segment response) →
      Carries t padding ab (lastSegment t) last → (run FMReceiver.group receiver responses).mRDSInfo.mText = t := by
  have reached : ∀ n, Standing t padding receiver.mRDSInfo.mText ab (responses.take n)
      (stateAt FMReceiver.group receiver responses n) :=
    fun n => standing_run broadcast other fun response member => onAir response (List.mem_of_mem_take member)
  refine ⟨fun n => (reached n).text, fun n response segment _ carries k few =>
    (reached n).textBytes broadcast carries few, ?_⟩
  intro front last back split received carries
  have parts : ∀ response, response ∈ front ∨ response = last ∨ response ∈ back → OnAir t padding ab response := by
    intro response member
    apply onAir
    rw [split]
    simpa using member
  have standing := standing_run broadcast other fun response member => parts response (Or.inl member)
  have all : ∀ i < t.length, ∃ response ∈ front, Carries t padding ab (i / 4) response := by
    intro i inside
    apply received
    show _ < (t ++ _).length
    rw [List.length_append]
    omega
  rw [split, run_append, run_cons]
  refine published_stays broadcast (standing.step broadcast (parts last (by simp)))
    (fun response member => parts response (by simp [member])) ?_
  rw [group_carries carries, textBytes_retyped carries _ (by decide : 3 < 4)]
  exact (standing.retyped broadcast).textBytes_published broadcast carries all

end

def radioTwo : List UInt8 := [82, 97, 100, 105, 111, 32, 84, 119, 111]

def radioTwoGroup (segment : Fin 3) : RdsResponse := fun i =>
  ([0, 0, 0, 1, 0, 0, 0x21, 0x10 + UInt8.ofNat segment] ++
    ((message radioTwo [32, 32]).drop (4 * segment)).take 4 ++ [0]).getD i.val 0

def disturbedGroup : RdsResponse := fun i => if i.val = 12 then 0x40 else 0

theorem radioTwoGroup_carries (segment : Fin 3) :
    Carries radioTwo [32, 32] true segment (radioTwoGroup segment) where
  clean := by decide +revert
  sync := by decide +revert
  kind := by decide +revert
  versionA := by decide +revert
  flag := by decide +revert
  numbered := by decide +revert
  inside := by decide +revert
  bytes := by decide +revert

/-- The last segment comes before the first one, which comes twice. -/
def outOfOrder : List RdsResponse :=
  [radioTwoGroup 1, disturbedGroup, radioTwoGroup 2, radioTwoGroup 0, radioTwoGroup 0]

theorem radioTwo_is_shown :
    (run FMReceiver.group {} (outOfOrder ++ [radioTwoGroup 2])).mRDSInfo.mText = radioTwo := by
  have broadcast : Broadcast radioTwo [32, 32] :=
    ⟨by decide, by simp [radioTwo, CARRIAGE_RETURN, EMPTY_CHAR], by simp [CARRIAGE_RETURN], by decide⟩
  have carries : ∀ segment, OnAir radioTwo [32, 32] true (radioTwoGroup segment) :=
    fun segment => Or.inl ⟨segment, radioTwoGroup_carries segment⟩
  have foreign : OnAir radioTwo [32, 32] true disturbedGroup := Or.inr (Or.inl (by decide))
  have onAir : ∀ response ∈ outOfOrder ++ [radioTwoGroup 2], OnAir radioTwo [32, 32] true response := by
    simp [outOfOrder, carries, foreign]
  obtain ⟨_, _, shown⟩ := @radio_text radioTwo [32, 32] true {} _ broadcast (by decide) onAir
  refine shown outOfOrder (radioTwoGroup 2) [] rfl (fun segment inside => ?_) (radioTwoGroup_carries 2)
  have length : (message radioTwo [32, 32]).length = 12 := rfl
  refine ⟨radioTwoGroup ⟨segment, by omega⟩, ?_, radioTwoGroup_carries ⟨segment, by omega⟩⟩
  have either : segment = 0 ∨ segment = 1 ∨ segment = 2 := by omega
  obtain rfl | rfl | rfl := either <;> simp [outOfOrder]

end RgbClock.Devices
