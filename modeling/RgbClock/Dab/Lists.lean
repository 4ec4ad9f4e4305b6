import Mathlib.Data.List.Forall2
import Mathlib.Data.List.TakeWhile
import RgbClock.Dab.Replies

/-! The two lists that the Si4684 sends, written as the driver expects them, and what the parsers make
of them. Bytes that the layout leaves open may be anything. -/

namespace RgbClock.Dab
open Bytes

/-! ### Labels -/

/-- `text` is `label` without the white space at its ends. -/
structure Trimmed (label text : List UInt8) : Prop where
  parts : ∃ front back, label = front ++ text ++ back ∧
    (∀ ch ∈ front, isspace ch = true) ∧ ∀ ch ∈ back, isspace ch = true
  first : ∀ ch, text.head? = some ch → isspace ch = false
  last : ∀ ch, text.getLast? = some ch → isspace ch = false

theorem trimmed_trim (label : List UInt8) : Trimmed label (trim label) := by
  -- what is left after the front was cut, read from its end
  have inner : (label.dropWhile isspace).reverse =
      (label.dropWhile isspace).reverse.takeWhile isspace ++ (label.dropWhile isspace).reverse.dropWhile isspace :=
    List.takeWhile_append_dropWhile.symm
  have outer : label.dropWhile isspace =
      trim label ++ ((label.dropWhile isspace).reverse.takeWhile isspace).reverse := by
    have turned := congrArg List.reverse inner
    rwa [List.reverse_reverse, List.reverse_append] at turned
  refine ⟨⟨label.takeWhile isspace, ((label.dropWhile isspace).reverse.takeWhile isspace).reverse, ?_, ?_, ?_⟩, ?_, ?_⟩
  · rw [List.append_assoc, ← outer, List.takeWhile_append_dropWhile]
  · intro ch member
    exact List.mem_takeWhile_imp member
  · intro ch member
    exact List.mem_takeWhile_imp (List.mem_reverse.mp member)
  · intro ch found
    obtain ⟨rest, trimmed⟩ := List.head?_eq_some_iff.mp found
    have head : (label.dropWhile isspace).head? = some ch := by
      rw [outer, trimmed]
      rfl
    have stops := List.head?_dropWhile_not isspace label
    rw [head] at stops
    simpa using stops
  · intro ch found
    have head : ((label.dropWhile isspace).reverse.dropWhile isspace).head? = some ch := by
      rw [← List.getLast?_reverse]
      exact found
    have stops := List.head?_dropWhile_not isspace (label.dropWhile isspace).reverse
    rw [head] at stops
    simpa using stops

/-! ### The layout -/

structure ComponentRecord where
  id : UInt16
  spare : Vector UInt8 2

structure ServiceRecord where
  id : UInt32
  spare4 : UInt8
  /-- Only the high half of byte 5 is open. -/
  spare5 : UInt8
  spare6 : Vector UInt8 2
  label : Vector UInt8 16
  components : List ComponentRecord
  few : components.length ≤ 15

def ComponentRecord.bytes (component : ComponentRecord) : List UInt8 := le16 component.id ++ component.spare.toList

def ServiceRecord.bytes (service : ServiceRecord) : List UInt8 :=
  le32 service.id ++ ([service.spare4, (service.spare5 &&& 0xF0) ||| UInt8.ofNat service.components.length] ++
    (service.spare6.toList ++ (service.label.toList ++ service.components.flatMap ComponentRecord.bytes)))

structure ServiceListHeader where
  spare0 : Vector UInt8 4
  version : UInt16
  spare9 : Vector UInt8 3

def serviceBytes (services : List ServiceRecord) : List UInt8 := services.flatMap ServiceRecord.bytes

/-- The whole reply: its `SIZE` does not count the first six bytes. -/
def ServiceListHeader.reply (header : ServiceListHeader) (services : List ServiceRecord) : List UInt8 :=
  header.spare0.toList ++ (le16 (UInt16.ofNat (6 + (serviceBytes services).length)) ++ (le16 header.version ++
    ([UInt8.ofNat services.length] ++ (header.spare9.toList ++ serviceBytes services))))

structure FrequencyListHeader where
  spare0 : Vector UInt8 4
  spare5 : Vector UInt8 3

def FrequencyListHeader.reply (header : FrequencyListHeader) (frequencies : List Nat) : List UInt8 :=
  header.spare0.toList ++ ([UInt8.ofNat frequencies.length] ++ (header.spare5.toList ++
    frequencies.flatMap fun frequency => le32 (UInt32.ofNat frequency)))

/-- The parsed service is the one that was written. -/
structure ServiceRecord.Is (record : ServiceRecord) (service : DABService) : Prop where
  id : service.ServiceId = record.id
  label : Trimmed record.label.toList service.Label
  components : service.Components = record.components.map ComponentRecord.id

/-! ### Parsing behind a prefix -/

theorem components_shift (front data : List UInt8) (pos count : Nat) :
    DABServiceList.components (front ++ data) (front.length + pos) count = DABServiceList.components data pos count := by
  induction count generalizing pos with
  | zero => rfl
  | succ count ih =>
    unfold DABServiceList.components
    rw [Nat.add_assoc, u16_shift, Nat.add_assoc, ih]

theorem services_shift (front data : List UInt8) (pos : Nat) :
    DABServiceList.services (front ++ data) (front.length + pos) = DABServiceList.services data pos := by
  induction pos using DABServiceList.services.induct data with
  | case1 pos more ih =>
    have longer : front.length + pos < (front ++ data).length := by
      rw [List.length_append]
      omega
    rw [DABServiceList.services.eq_def _ (front.length + pos), if_pos longer, DABServiceList.services.eq_def data pos,
      if_pos more]
    simp only [Nat.add_assoc, u32_shift, getElem?_shift, slice_shift, components_shift] at ih ⊢
    simp only [ih]
  | case2 pos done =>
    have shorter : ¬ front.length + pos < (front ++ data).length := by
      rw [List.length_append]
      omega
    rw [DABServiceList.services.eq_def _ (front.length + pos), if_neg shorter, DABServiceList.services.eq_def data pos,
      if_neg done]

theorem frequencies_shift (front data : List UInt8) (index : Nat) :
    DABFrequencyList.frequencies (front ++ data) (front.length + index) = DABFrequencyList.frequencies data index := by
  induction index using DABFrequencyList.frequencies.induct data with
  | case1 index more ih =>
    have longer : front.length + index + 3 ≤ (front ++ data).length := by
      rw [List.length_append]
      omega
    rw [DABFrequencyList.frequencies.eq_def _ (front.length + index), if_pos longer,
      DABFrequencyList.frequencies.eq_def data index, if_pos more, u32_shift, Nat.add_assoc, ih]
  | case2 index done =>
    have shorter : ¬ front.length + index + 3 ≤ (front ++ data).length := by
      rw [List.length_append]
      omega
    rw [DABFrequencyList.frequencies.eq_def _ (front.length + index), if_neg shorter,
      DABFrequencyList.frequencies.eq_def data index, if_neg done]

/-! ### One record -/

theorem ComponentRecord.length_bytes (component : ComponentRecord) : component.bytes.length = 4 := by
  unfold ComponentRecord.bytes
  rw [List.length_append, Vector.length_toList]
  rfl

theorem length_components (components : List ComponentRecord) :
    (components.flatMap ComponentRecord.bytes).length = 4 * components.length := by
  rw [List.length_flatMap]
  simp only [ComponentRecord.length_bytes, List.map_const', List.sum_replicate_nat]
  omega

/-- The ids of the components that stand from the 24th byte of a record on. -/
theorem components_bytes {front : List UInt8} {pos : Nat} (header : front.length = pos + 24)
    (components : List ComponentRecord) (rest : List UInt8) :
    DABServiceList.components (front ++ (components.flatMap ComponentRecord.bytes ++ rest)) pos components.length =
      some (components.map ComponentRecord.id) := by
  induction components generalizing front pos with
  | nil => rfl
  | cons component more ih =>
    -- the first id stands where the header ends; the next record of four bytes is then part of the header
    have id : u16 (front ++ ((component :: more).flatMap ComponentRecord.bytes ++ rest)) (pos + 24) =
        some component.id := by
      have here := u16_shift front ((component :: more).flatMap ComponentRecord.bytes ++ rest) 0
      rw [Nat.add_zero, header] at here
      rw [here, List.flatMap_cons, ComponentRecord.bytes, List.append_assoc, List.append_assoc]
      exact u16_le16 component.id _
    have longer : (front ++ component.bytes).length = pos + 4 + 24 := by
      rw [List.length_append, component.length_bytes, header]
    have later := ih longer
    rw [List.append_assoc, ← List.append_assoc component.bytes, ← List.flatMap_cons] at later
    rw [List.length_cons, DABServiceList.components, id, later]
    rfl

theorem ServiceRecord.length_bytes (service : ServiceRecord) :
    service.bytes.length = 24 + 4 * service.components.length := by
  unfold ServiceRecord.bytes
  simp only [List.length_append, Vector.length_toList, length_components]
  simp [le32]
  omega

/-- What the parser makes of a record. -/
def ServiceRecord.parsed (service : ServiceRecord) : DABService where
  ServiceId := service.id
  Components := service.components.map ComponentRecord.id
  Label := trim service.label.toList

theorem ServiceRecord.is_parsed (service : ServiceRecord) : service.Is service.parsed :=
  ⟨rfl, trimmed_trim service.label.toList, rfl⟩

/-- A record is eight bytes, the label and the components. -/
theorem ServiceRecord.bytes_parts (service : ServiceRecord) (rest : List UInt8) :
    ∃ front : List UInt8, front.length = 8 ∧ service.bytes ++ rest =
      front ++ (service.label.toList ++ (service.components.flatMap ComponentRecord.bytes ++ rest)) := by
  refine ⟨le32 service.id ++ ([service.spare4, (service.spare5 &&& 0xF0) ||| UInt8.ofNat service.components.length] ++
    service.spare6.toList), ?_, ?_⟩
  · rw [List.length_append, List.length_append, Vector.length_toList]
    rfl
  · simp only [ServiceRecord.bytes, List.append_assoc]

theorem services_cons (service : ServiceRecord) (rest : List UInt8) :
    DABServiceList.services (service.bytes ++ rest) 0 =
      (DABServiceList.services rest 0).map fun services => service.parsed :: services := by
  have more : 0 < (service.bytes ++ rest).length := by
    rw [List.length_append, service.length_bytes]
    omega
  obtain ⟨front, eight, whole⟩ := service.bytes_parts rest
  have id : u32 (service.bytes ++ rest) 0 = some service.id := by
    unfold ServiceRecord.bytes
    rw [List.append_assoc]
    exact u32_le32 service.id _
  have count : ((service.bytes ++ rest)[0 + 5]?.map fun b => (b &&& 0x0F).toNat) = some service.components.length :=
    congrArg some (low_nibble service.spare5 service.few)
  have label : slice (service.bytes ++ rest) (0 + 8) 16 = some service.label.toList := by
    rw [whole]
    exact slice_between eight service.label.length_toList _
  have components : DABServiceList.components (service.bytes ++ rest) 0 service.components.length =
      some (service.components.map ComponentRecord.id) := by
    rw [whole, ← List.append_assoc]
    apply components_bytes
    rw [List.length_append, eight, Vector.length_toList]
  have next : DABServiceList.services (service.bytes ++ rest) (0 + 4 * service.components.length + 24) =
      DABServiceList.services rest 0 := by
    have here := services_shift service.bytes rest 0
    rw [Nat.add_zero, service.length_bytes, Nat.add_comm 24] at here
    rw [Nat.zero_add]
    exact here
  rw [DABServiceList.services.eq_def _ 0, if_pos more]
  simp only [id, count, label, components, next, bind, Option.bind]
  cases DABServiceList.services rest 0 with
  | none => rfl
  | some services => rfl

/-! ### The whole lists -/

theorem four_bytes (bytes : Vector UInt8 4) : ∃ a b c d, bytes.toList = [a, b, c, d] :=
  match bytes.toList, bytes.length_toList with
  | [a, b, c, d], _ => ⟨a, b, c, d, rfl⟩

theorem three_bytes (bytes : Vector UInt8 3) : ∃ a b c, bytes.toList = [a, b, c] :=
  match bytes.toList, bytes.length_toList with
  | [a, b, c], _ => ⟨a, b, c, rfl⟩

theorem services_bytes (services : List ServiceRecord) :
    DABServiceList.services (serviceBytes services) 0 = some (services.map ServiceRecord.parsed) := by
  induction services with
  | nil =>
    have done : ¬ 0 < ([] : List UInt8).length := Nat.lt_irrefl 0
    rw [serviceBytes, List.flatMap_nil, DABServiceList.services, if_neg done]
    rfl
  | cons service rest ih =>
    have parts : serviceBytes (service :: rest) = service.bytes ++ serviceBytes rest := List.flatMap_cons
    rw [parts, services_cons, ih]
    rfl

theorem toInt_ofNat {frequency : Nat} (small : frequency < 2147483648) :
    (UInt32.ofNat frequency).toInt32.toInt = Int.ofNat frequency := by
  show (UInt32.ofNat frequency).toBitVec.toInt = _
  have value : (UInt32.ofNat frequency).toBitVec.toNat = frequency := by
    show (UInt32.ofNat frequency).toNat = frequency
    rw [UInt32.toNat_ofNat']
    omega
  rw [BitVec.toInt_eq_toNat_of_lt (by rw [value]; omega), value]
  rfl

theorem frequencies_bytes {frequencies : List Nat} (small : ∀ frequency ∈ frequencies, frequency < 2147483648) :
    ∃ parsed, DABFrequencyList.frequencies (frequencies.flatMap fun frequency => le32 (UInt32.ofNat frequency)) 0 =
      some parsed ∧ parsed.map Int32.toInt = frequencies.map Int.ofNat := by
  induction frequencies with
  | nil =>
    refine ⟨[], ?_, rfl⟩
    rw [List.flatMap_nil, DABFrequencyList.frequencies, if_neg (by decide)]
  | cons frequency rest ih =>
    obtain ⟨parsed, later, same⟩ := ih fun other member => small other (List.mem_cons_of_mem _ member)
    refine ⟨(UInt32.ofNat frequency).toInt32 :: parsed, ?_, ?_⟩
    · have more : 0 + 3 ≤ ((frequency :: rest).flatMap fun frequency => le32 (UInt32.ofNat frequency)).length := by
        rw [List.flatMap_cons, List.length_append]
        exact Nat.le_trans (by decide) (Nat.le_add_right 4 _)
      have next : DABFrequencyList.frequencies (le32 (UInt32.ofNat frequency) ++
          rest.flatMap fun frequency => le32 (UInt32.ofNat frequency)) (0 + 4) = some parsed :=
        (frequencies_shift (le32 (UInt32.ofNat frequency)) _ 0).trans later
      rw [DABFrequencyList.frequencies.eq_def _ 0, if_pos more, List.flatMap_cons, u32_le32, next]
      rfl
    · rw [List.map_cons, List.map_cons, same, toInt_ofNat (small frequency List.mem_cons_self)]

theorem ServiceListHeader.length_reply (header : ServiceListHeader) (services : List ServiceRecord) :
    (header.reply services).length = 12 + (serviceBytes services).length := by
  unfold ServiceListHeader.reply
  simp only [List.length_append, Vector.length_toList]
  simp [le16]
  omega

theorem parse_reply (header : ServiceListHeader) (services : List ServiceRecord) :
    DABServiceList.parse (header.reply services) =
      some { SIZE := UInt16.ofNat (6 + (serviceBytes services).length), mFullParsed := true, VERSION := header.version,
             SERVICECOUNT := UInt8.ofNat services.length, mServices := services.map ServiceRecord.parsed } := by
  have length := header.length_reply services
  obtain ⟨a, b, c, d, four⟩ := four_bytes header.spare0
  obtain ⟨e, f, g, three⟩ := three_bytes header.spare9
  have size : u16 (header.reply services) 0x04 = some (UInt16.ofNat (6 + (serviceBytes services).length)) := by
    unfold ServiceListHeader.reply
    rw [four]
    exact u16_le16 (UInt16.ofNat (6 + (serviceBytes services).length)) []
  have version : u16 (header.reply services) 0x06 = some header.version := by
    unfold ServiceListHeader.reply
    rw [four]
    exact u16_le16 header.version []
  have count : (header.reply services)[0x08]? = some (UInt8.ofNat services.length) := by
    unfold ServiceListHeader.reply
    rw [four]
    rfl
  have body : DABServiceList.services (header.reply services) 12 = some (services.map ServiceRecord.parsed) := by
    rw [← services_bytes services]
    unfold ServiceListHeader.reply
    rw [four, three]
    exact services_shift ([a, b, c, d] ++ le16 _ ++ le16 header.version ++ [_, e, f, g]) (serviceBytes services) 0
  have guarded : (header.reply services).length > 0x05 := by omega
  have whole : (header.reply services).length > (UInt16.ofNat (6 + (serviceBytes services).length)).toNat := by
    rw [UInt16.toNat_ofNat']
    omega
  unfold DABServiceList.parse whenLonger
  rw [if_pos guarded, size]
  simp only [bind, Option.bind, whole, if_true, version, count, body]
  rfl

theorem parse_frequencies_reply (header : FrequencyListHeader) {frequencies : List Nat} {parsed : List Int32}
    (reads : DABFrequencyList.frequencies (frequencies.flatMap fun frequency => le32 (UInt32.ofNat frequency)) 0 =
      some parsed) :
    DABFrequencyList.parse (header.reply frequencies) = some ⟨UInt8.ofNat frequencies.length, parsed⟩ := by
  obtain ⟨a, b, c, d, four⟩ := four_bytes header.spare0
  obtain ⟨e, f, g, three⟩ := three_bytes header.spare5
  have count : whenLonger (header.reply frequencies) 4 (header.reply frequencies)[4]? 0 =
      some (UInt8.ofNat frequencies.length) := by
    unfold FrequencyListHeader.reply
    rw [four, three]
    rfl
  have body : DABFrequencyList.frequencies (header.reply frequencies) 8 = some parsed := by
    rw [← reads]
    unfold FrequencyListHeader.reply
    rw [four, three]
    exact frequencies_shift [a, b, c, d, UInt8.ofNat frequencies.length, e, f, g] _ 0
  unfold DABFrequencyList.parse
  rw [count, body]
  rfl

/-- Every list of services and every list of frequencies is read back from its reply. -/
theorem lists_parsed :
    (∀ (header : ServiceListHeader) (services : List ServiceRecord),
      (header.reply services).length - 6 < 65536 →
      ∃ list, DABServiceList.parse (header.reply services) = some list ∧
        list.SIZE.toNat = (header.reply services).length - 6 ∧
        List.Forall₂ ServiceRecord.Is services list.mServices) ∧
    (∀ (header : FrequencyListHeader) (frequencies : List Nat),
      frequencies.length ≤ 255 → (∀ frequency ∈ frequencies, frequency < 2147483648) →
      ∃ list, DABFrequencyList.parse (header.reply frequencies) = some list ∧
        list.NUM_FREQS.toNat = frequencies.length ∧
        list.mFrequencies.map Int32.toInt = frequencies.map Int.ofNat) := by
  refine ⟨?_, ?_⟩
  · intro header services fits
    refine ⟨_, parse_reply header services, ?_, ?_⟩
    · rw [header.length_reply] at fits ⊢
      rw [UInt16.toNat_ofNat']
      omega
    · rw [List.forall₂_map_right_iff, List.forall₂_same]
      exact fun service _ => service.is_parsed
  · intro header frequencies few small
    obtain ⟨parsed, reads, same⟩ := frequencies_bytes small
    refine ⟨⟨UInt8.ofNat frequencies.length, parsed⟩, parse_frequencies_reply header reads, ?_, same⟩
    show (UInt8.ofNat frequencies.length).toNat = frequencies.length
    rw [UInt8.toNat_ofNat']
    omega

theorem one_station_with_two_components :
    (∃ list, DABServiceList.parse (ServiceListHeader.reply ⟨#v[0, 0, 0, 0], 1, #v[0, 0, 0]⟩
        [⟨0x6F01, 0, 0x40, #v[0, 0], #v[32, 77, 78, 77, 32, 32, 32, 32, 32, 32, 32, 32, 32, 32, 32, 32],
          [⟨3, #v[0, 0]⟩, ⟨0x104, #v[0, 0]⟩], by decide⟩]) = some list ∧
      list.mServices.map DABService.Components = [[3, 0x104]]) ∧
      ∃ list, DABFrequencyList.parse (FrequencyListHeader.reply ⟨#v[0, 0, 0, 0], #v[0, 0, 0]⟩ [223936, 229072]) =
        some list ∧ list.NUM_FREQS.toNat = 2 := by
  refine ⟨?_, ?_⟩
  · obtain ⟨list, parsed, -, services⟩ := lists_parsed.1 ⟨#v[0, 0, 0, 0], 1, #v[0, 0, 0]⟩
      [⟨0x6F01, 0, 0x40, #v[0, 0], #v[32, 77, 78, 77, 32, 32, 32, 32, 32, 32, 32, 32, 32, 32, 32, 32],
        [⟨3, #v[0, 0]⟩, ⟨0x104, #v[0, 0]⟩], by decide⟩] (by decide)
    refine ⟨list, parsed, ?_⟩
    obtain ⟨service, rest, is, none, same⟩ := List.forall₂_cons_left_iff.mp services
    rw [same, List.forall₂_nil_left_iff.mp none, List.map_cons, is.components]
    rfl
  · obtain ⟨list, parsed, count, -⟩ := lists_parsed.2 ⟨#v[0, 0, 0, 0], #v[0, 0, 0]⟩ [223936, 229072] (by decide) (by decide)
    exact ⟨list, parsed, count⟩

end RgbClock.Dab
