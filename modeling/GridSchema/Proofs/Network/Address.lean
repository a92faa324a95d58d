import Mathlib.Data.List.Basic
import GridSchema.Network.Basic
import GridSchema.Proofs.Network.Endpoint
import GridSchema.Proofs.Text.Split

/-! The addresses of the endpoints that instances are bound to. An endpoint is told by its text, and
whoever reads the text finds the same endpoint, in both versions of addresses. -/

namespace GridSchema

namespace Host

/-! ### Addresses of version 4 -/

def octets (address : UInt32) : List UInt8 :=
  [(address >>> 24).toUInt8, (address >>> 16).toUInt8, (address >>> 8).toUInt8,
    (address >>> 0).toUInt8]

def octetDigits (octet : UInt8) : List Char :=
  Nat.toDigits 10 octet.toNat

theorem toList_octetsText (address : UInt32) :
    (octetsText address).toList = ['.'].intercalate ((octets address).map octetDigits) := by
  have written (octet : UInt8) : (toString octet).toList = octetDigits octet :=
    Json.toList_toString octet.toNat
  unfold octetsText
  rw [String.toList_intercalate]
  simp [written, octets]

theorem isDigit_octetDigits {octet : UInt8} {c : Char} (mem : c ∈ octetDigits octet) :
    c.isDigit = true :=
  Json.isDigit_toDigits octet.toNat c mem

theorem of_mem_octetsText {address : UInt32} {c : Char} (mem : c ∈ (octetsText address).toList) :
    c.isDigit = true ∨ c = '.' := by
  rw [toList_octetsText] at mem
  simp only [octets, List.map_cons, List.map_nil, List.intercalate_cons_cons,
    List.intercalate_singleton, List.mem_append, List.mem_singleton] at mem
  rcases mem with (mem | dot) | (mem | dot) | (mem | dot) | mem
  · exact .inl (isDigit_octetDigits mem)
  · exact .inr dot
  · exact .inl (isDigit_octetDigits mem)
  · exact .inr dot
  · exact .inl (isDigit_octetDigits mem)
  · exact .inr dot
  · exact .inl (isDigit_octetDigits mem)

theorem notMem_octetsText {address : UInt32} {c : Char} (digit : c.isDigit = false)
    (other : c ≠ '.') : c ∉ (octetsText address).toList := by
  intro mem
  rcases of_mem_octetsText mem with is | dot
  · rw [digit] at is
    cases is
  · exact other dot

theorem split_octetsText (address : UInt32) :
    Text.split '.' (octetsText address).toList = (octets address).map octetDigits := by
  rw [toList_octetsText]
  refine Text.split_intercalate ?_
  intro digits mem dot
  obtain ⟨octet, -, rfl⟩ : ∃ octet ∈ octets address, octetDigits octet = digits :=
    List.mem_map.mp mem
  exact absurd (isDigit_octetDigits dot) (by decide)

theorem octet?_octetDigits (octet : UInt8) :
    octet? (octetDigits octet) = some octet ∧ number? (octetDigits octet) = some octet.toNat := by
  have all : ∀ n : Fin 256, octet? (Nat.toDigits 10 n) = some (UInt8.ofNat n) ∧
      number? (Nat.toDigits 10 n) = some n.val := by
    decide +kernel
  have read := all ⟨octet.toNat, octet.toNat_lt⟩
  rw [UInt8.ofNat_toNat] at read
  exact read

theorem ofNat_octets (address : UInt32) :
    UInt32.ofNat ((octets address).foldl (fun n octet => n * 256 + octet.toNat) 0) = address := by
  apply UInt32.toNat_inj.mp
  have small := address.toNat_lt
  have second : address.toNat / 65536 = address.toNat / 256 / 256 := by
    rw [Nat.div_div_eq_div_mul]
  have third : address.toNat / 16777216 = address.toNat / 256 / 256 / 256 := by
    rw [Nat.div_div_eq_div_mul, Nat.div_div_eq_div_mul]
  simp [octets, Nat.shiftRight_eq_div_pow, second, third]
  omega

theorem parse4?_octetsText (address : UInt32) :
    parse4? (octetsText address).toList = some (.v4 address) := by
  have whole := ofNat_octets address
  have cut := split_octetsText address
  unfold octets at whole cut
  -- all that matters of the octets is that there are four
  generalize (address >>> 24).toUInt8 = a, (address >>> 16).toUInt8 = b,
    (address >>> 8).toUInt8 = c, (address >>> 0).toUInt8 = d at whole cut
  have numbers : ([a, b, c, d].map octetDigits).mapM number? =
      some [a.toNat, b.toNat, c.toNat, d.toNat] := by
    simp [(octet?_octetDigits _).2]
  have bounded : [a.toNat, b.toNat, c.toNat].all (· < 256) = true := by
    have small (octet : UInt8) : octet.toNat < 256 := octet.toNat_lt
    simp [small]
  have room : d.toNat < Nat.pow 256 (4 - 3) := d.toNat_lt
  unfold parse4?
  rw [cut, numbers]
  refine (if_pos ⟨Nat.lt_succ_self 3, bounded, room⟩).trans ?_
  exact congrArg (fun address => some (Host.v4 address)) whole

theorem octets?_octetsText (address : UInt32) :
    octets? (octetsText address).toList = some (octets address) := by
  have four : (octets address).length = 4 := rfl
  have read : ((octets address).map octetDigits).mapM octet? = some (octets address) := by
    simp [octets, (octet?_octetDigits _).1]
  unfold octets?
  rw [split_octetsText, read]
  simp [four]

/-- An address of version 4 is looked up as itself. -/
theorem lookup_octetsText (address : UInt32) : lookup (octetsText address) = .ok (.v4 address) := by
  have plain : (octetsText address).toList.contains '\x00' = false := by
    rw [← Bool.not_eq_true, List.contains_iff_mem]
    exact notMem_octetsText (by decide) (by decide)
  unfold lookup
  rw [plain, parse4?_octetsText]
  rfl

/-! ### Addresses of version 6 -/

theorem groups_octets (high low : UInt16) :
    let address := (high.toUInt32 <<< 16) + low.toUInt32
    ((address >>> 24).toUInt8.toUInt16 <<< 8) + (address >>> 16).toUInt8.toUInt16 = high ∧
      ((address >>> 8).toUInt8.toUInt16 <<< 8) + (address >>> 0).toUInt8.toUInt16 = low := by
  intro address
  have first := high.toNat_lt
  have second := low.toNat_lt
  have value : address.toNat = high.toNat * 65536 + low.toNat := by
    simp [address, Nat.shiftLeft_eq]
    omega
  constructor
  · apply UInt16.toNat_inj.mp
    simp [value, Nat.shiftLeft_eq, Nat.shiftRight_eq_div_pow]
    omega
  · apply UInt16.toNat_inj.mp
    simp [value, Nat.shiftLeft_eq, Nat.shiftRight_eq_div_pow]
    omega

/-- An address of version 4 that is written as one of version 6 is read as one of version 6. -/
theorem parse6?_mapped (high low : UInt16) :
    parse6? ("::ffff:" ++ octetsText ((high.toUInt32 <<< 16) + low.toUInt32)).toList =
      some [0, 0, 0, 0, 0, 0xFFFF, high, low] := by
  have halves := groups_octets high low
  generalize (high.toUInt32 <<< 16) + low.toUInt32 = address at halves ⊢
  have spelled : ("::ffff:" ++ octetsText address).toList =
      ':' :: ':' :: (['f', 'f', 'f', 'f'] ++ ':' :: (octetsText address).toList) := by
    simp
  have plain : ':' ∉ (octetsText address).toList := notMem_octetsText (by decide) (by decide)
  have cut : Text.split ':' (['f', 'f', 'f', 'f'] ++ ':' :: (octetsText address).toList) =
      [['f', 'f', 'f', 'f'], (octetsText address).toList] := by
    rw [Text.split_append, Text.split_of_notMem (by decide), Text.split_of_notMem plain]
    rfl
  have read : groups? true (['f', 'f', 'f', 'f'] ++ ':' :: (octetsText address).toList) =
      some [0xFFFF, high, low] := by
    have given : (['f', 'f', 'f', 'f'] ++ ':' :: (octetsText address).toList).isEmpty = false := rfl
    have front : [['f', 'f', 'f', 'f']].mapM group? = some [0xFFFF] := by decide
    unfold groups?
    simp only [given, Bool.false_eq_true, if_false, cut, if_true, List.getLast?_cons_cons,
      List.getLast?_singleton, Option.bind_some, octets?_octetsText, octets, List.dropLast, front,
      halves]
    rfl
  have gap :
      splitGap? (':' :: ':' :: (['f', 'f', 'f', 'f'] ++ ':' :: (octetsText address).toList)) =
        some ([], ['f', 'f', 'f', 'f'] ++ ':' :: (octetsText address).toList) := rfl
  have nothing : groups? false [] = some [] := rfl
  rw [spelled]
  unfold parse6?
  rw [gap]
  simp only [nothing, read]
  rfl

theorem length_of_parse6? {text : List Char} {groups : List UInt16}
    (read : parse6? text = some groups) : groups.length = 8 := by
  unfold parse6? at read
  cases gap : splitGap? text with
  | none =>
    rw [gap] at read
    have eight := (Option.filter_eq_some_iff.mp read).2
    exact eq_of_beq eight
  | some parts =>
    obtain ⟨before, after⟩ := parts
    rw [gap] at read
    obtain ⟨front, -, read⟩ := Option.bind_eq_some_iff.mp read
    obtain ⟨back, -, read⟩ := Option.bind_eq_some_iff.mp read
    split_ifs at read with short
    cases read
    simp only [List.length_append, List.length_replicate]
    omega

def HasGroups : Host → Prop
  | v4 _ => True
  | v6 groups _ => groups.length = 8

theorem hasGroups_of_parse4? {text : List Char} {host : Host} (read : parse4? text = some host) :
    host.HasGroups := by
  obtain ⟨numbers, -, read⟩ := Option.bind_eq_some_iff.mp read
  obtain ⟨last, -, read⟩ := Option.bind_eq_some_iff.mp read
  obtain ⟨-, made⟩ := Option.ite_none_right_eq_some.mp read
  cases made
  trivial

theorem hasGroups_of_parseScoped? {named : Bool} {text : List Char} {host : Host}
    (read : parseScoped? named text = some host) : host.HasGroups := by
  unfold parseScoped? at read
  split at read
  · obtain ⟨groups, parsed, rfl⟩ := Option.map_eq_some_iff.mp read
    exact length_of_parse6? parsed
  · obtain ⟨groups, parsed, read⟩ := Option.bind_eq_some_iff.mp read
    split_ifs at read
    · cases read
      exact length_of_parse6? parsed
    · obtain ⟨number, -, read⟩ := Option.bind_eq_some_iff.mp read
      cases read
      exact length_of_parse6? parsed

theorem hasGroups_of_lookup {name : String} {host : Host} (known : lookup name = .ok host) :
    host.HasGroups := by
  cases read : (parse4? name.toList).or (parseScoped? true name.toList) with
  | some found =>
    simp only [lookup, read] at known
    split_ifs at known
    cases known
    rcases Option.or_eq_some_iff.mp read with parsed | ⟨-, parsed⟩
    · exact hasGroups_of_parse4? parsed
    · exact hasGroups_of_parseScoped? parsed
  | none =>
    simp only [lookup, read] at known
    split_ifs at known
    cases known
    trivial

/-! ### Hosts that instances are bound to -/

/-- The groups in front of an address of version 4 that is written as one of version 6. -/
def mappedGroups : List UInt16 := [0, 0, 0, 0, 0, 0xFFFF]

/-- The groups of the address of version 6 that the machine calls itself by. -/
def ownGroups : List UInt16 := [0, 0, 0, 0, 0, 0, 0, 1]

theorem plain_of_not_mapped {groups : List UInt16} (other : groups.take 6 ≠ mappedGroups)
    (interface : UInt32) : (v6 groups interface).plain = v6 groups interface := by
  have differs : (groups.take 6 == [0, 0, 0, 0, 0, 0xFFFF]) = false := beq_eq_false_iff_ne.mpr other
  unfold plain
  split
  next same =>
    cases same
  next same =>
    cases same
    simp only [differs, Bool.false_eq_true, if_false]
    split <;> rfl

/-- An address of version 6 at which a machine with addresses accepts connections is one of version
4, that of any host, or the one that the machine calls itself by. -/
theorem groups_of_bindFault? {groups : List UInt16} {interface : UInt32}
    (eight : groups.length = 8) (allowed : (v6 groups interface).bindFault? true = none) :
    (∃ high low, groups = mappedGroups ++ [high, low]) ∨
      groups = List.replicate 8 0 ∨ groups = ownGroups := by
  by_cases mapped : groups.take 6 = mappedGroups
  · have rest : (groups.drop 6).length = 2 := by
      rw [List.length_drop, eight]
    obtain ⟨high, low, two⟩ := List.length_eq_two.mp rest
    refine .inl ⟨high, low, ?_⟩
    rw [← mapped, ← two, List.take_append_drop]
  · have plain := plain_of_not_mapped mapped interface
    have unspecified : (v6 groups interface).isUnspecified = groups.all (· == 0) := by
      unfold isUnspecified
      rw [plain]
    have own : (v6 groups interface).isLoopback = (groups == ownGroups) := by
      unfold isLoopback
      rw [plain]
      rfl
    unfold bindFault? at allowed
    rw [plain] at allowed
    simp only [unspecified, own, Bool.true_and] at allowed
    split_ifs at allowed with _ _ _ _ permitted
    rcases Bool.or_eq_true_iff.mp permitted with any | itself
    · refine .inr (.inl (List.eq_replicate_iff.mpr ⟨eight, ?_⟩))
      intro group mem
      exact eq_of_beq (List.all_eq_true.mp any group mem)
    · exact .inr (.inr (eq_of_beq itself))

end Host

namespace Endpoint

open Host

/-! ### Text of endpoints -/

theorem resolve_text_v4 (address : UInt32) (port : UInt16) :
    resolve (⟨.v4 address, port⟩ : Endpoint).text = .ok ⟨.v4 address, port⟩ := by
  refine resolve_name (lookup_octetsText address) ?_ port
  intro bracket
  exact notMem_octetsText (by decide) (by decide) (List.mem_of_mem_head? bracket)

theorem resolve_text_mapped (high low : UInt16) (port : UInt16) :
    resolve (⟨ofGroups (mappedGroups ++ [high, low]), port⟩ : Endpoint).text =
      .ok ⟨ofGroups (mappedGroups ++ [high, low]), port⟩ := by
  have text : (ofGroups (mappedGroups ++ [high, low])).text =
      "::ffff:" ++ octetsText ((high.toUInt32 <<< 16) + low.toUInt32) := rfl
  have unscoped : '%' ∉
      ("::ffff:" ++ octetsText ((high.toUInt32 <<< 16) + low.toUInt32)).toList := by
    rw [String.toList_append, List.mem_append]
    exact not_or.mpr ⟨by decide, notMem_octetsText (by decide) (by decide)⟩
  have read : parseScoped? false (ofGroups (mappedGroups ++ [high, low])).text.toList =
      some (ofGroups (mappedGroups ++ [high, low])) := by
    rw [text]
    unfold parseScoped?
    rw [Text.splitFirst?_of_notMem unscoped, parse6?_mapped]
    rfl
  exact resolve_bracketed read port

/-- An endpoint that instances are bound to on a machine with addresses is the one that its text
leads to. -/
theorem resolve_text_of_bindFault? {host : Host} (whole : host.HasGroups)
    (allowed : host.bindFault? true = none) (port : UInt16) :
    resolve (⟨host.withoutInterface, port⟩ : Endpoint).text =
      .ok ⟨host.withoutInterface, port⟩ := by
  cases host with
  | v4 address => exact resolve_text_v4 address port
  | v6 groups interface =>
    rcases groups_of_bindFault? whole allowed with ⟨high, low, rfl⟩ | rfl | rfl
    · exact resolve_text_mapped high low port
    · have read : parseScoped? false "::".toList = some (ofGroups (List.replicate 8 0)) := by
        decide +kernel
      exact resolve_bracketed read port
    · have read : parseScoped? false "::1".toList = some (ofGroups ownGroups) := by
        decide +kernel
      exact resolve_bracketed read port

end Endpoint

end GridSchema
