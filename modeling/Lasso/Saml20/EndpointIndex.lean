import Lasso.Saml20.DefaultConsumer
import Lasso.Xml.IntegerFields

/-!
# The index of an endpoint

The index of an endpoint is an `xs:unsignedShort`. It is read with `strtol`, which takes the number
at the start of a text, or 0 if there is none. The number is cut to an `int` before it is compared
with the bounds, and the largest index is refused.

## Main definitions

* `representedShort` — the index that a text stands for.
* `ReadsShort`, `ReadsIndex` — the texts and the elements that are read rightly.

## Main results

* `shortParse_iff` — these are the ones.
-/

namespace Lasso.Saml20

/-- `xsdUnsignedShortParse` with all of its test, and `errno` cleared before. -/
def xsdUnsignedShortParseErrno (value : String) : Option Int :=
  let (long, errno) := strtolErrno 0 value.toList
  let l := cutToInt long
  if (l = intMin ∨ l = intMax) ∧ errno = erange ∨ errno = einval ∨ l < 0 ∨ l ≥ 65535 then none
  else some l

/-- The number of a text that is nothing but decimal digits, up to 65535. -/
def representedShort (value : String) : Option Int :=
  let n := Nat.ofDigitChars 10 value.toList 0
  if value.toList ≠ [] ∧ value.toList.all (·.isDigit) = true ∧ n ≤ 65535 then some n else none

/-- The number is refused: it is beyond a `long`, or what is left of it in an `int` is out of the
bounds. -/
def RefusedNumber (n : Int) : Prop := 2 ^ 63 ≤ n ∨ -2 ^ 63 ≤ n ∧ 65535 ≤ n % 2 ^ 32

instance : DecidablePred RefusedNumber := fun _ => inferInstanceAs (Decidable (_ ∨ _))

/-- A text that stands for an index does not begin with the number 65535, and any other text begins
with a number that is refused. -/
def ReadsShort (value : String) : Prop :=
  let n := Decimal.strtol value.toList
  if (representedShort value).isSome then n ≠ 65535 else RefusedNumber n

/-- An element whose endpoint has an index. -/
def isIndexedElement (node : XmlNode) : Bool :=
  isConsumerElement node || node.isElementNode "ArtifactResolutionService" saml2MetadataHref

/-- The endpoint of such an element is loaded with the index that its attribute stands for, if it is
loaded. -/
def KeepsIndex (role : ProviderRole) (node : XmlNode) : Prop :=
  ∀ endpoint, loadEndpointType2 role node = some endpoint → isIndexedElement node = true →
    (node.getProp "index").bind representedShort = some endpoint.index

/-- If the element is complete, its attribute stands for an index or begins with a number that is
refused. -/
def ReadsIndex (node : XmlNode) : Prop :=
  isIndexedElement node = true → (node.getProp "Binding").isSome →
    (node.getProp "Location").isSome → ∀ value, node.getProp "index" = some value →
      (representedShort value).isSome ∨ RefusedNumber (Decimal.strtol value.toList)

/-! ## The number that is read -/

theorem xsdUnsignedShortParse_eq (value : String) :
    xsdUnsignedShortParse value =
      if cutToInt (toLong (Decimal.strtol value.toList)) < 0 ∨
          cutToInt (toLong (Decimal.strtol value.toList)) ≥ 65535 then none
      else some (cutToInt (toLong (Decimal.strtol value.toList))) := rfl

/-- The tests of `errno` refuse nothing that the bounds do not refuse. -/
theorem xsdUnsignedShortParseErrno_eq (value : String) :
    xsdUnsignedShortParseErrno value = xsdUnsignedShortParse value := by
  have hlow := @cutToInt_toLong_of_lt (Decimal.strtol value.toList)
  have hhigh := @cutToInt_toLong_of_ge (Decimal.strtol value.toList)
  rw [xsdUnsignedShortParse_eq]
  unfold xsdUnsignedShortParseErrno strtolErrno
  dsimp only
  generalize cutToInt (toLong (Decimal.strtol value.toList)) = l at *
  unfold intMin intMax erange einval
  split_ifs <;> grind

theorem refusedNumber_iff (n : Int) :
    RefusedNumber n ↔ cutToInt (toLong n) < 0 ∨ cutToInt (toLong n) ≥ 65535 := by
  unfold RefusedNumber
  by_cases hlow : n < -2 ^ 63
  · rw [cutToInt_toLong_of_lt hlow]
    omega
  · by_cases hhigh : 2 ^ 63 ≤ n
    · rw [cutToInt_toLong_of_ge hhigh]
      omega
    · have hlong : toLong n = n := by
        unfold toLong
        omega
      rw [hlong, cutToInt, Int.bmod_def]
      omega

theorem xsdUnsignedShortParse_eq_none_iff (value : String) :
    xsdUnsignedShortParse value = none ↔ RefusedNumber (Decimal.strtol value.toList) := by
  rw [xsdUnsignedShortParse_eq, refusedNumber_iff]
  split_ifs with hbounds <;> simp [hbounds]

/-- The index that a text stands for is the number that `strtol` reads. -/
theorem representedShort_eq_some {value : String} {n : Int} (h : representedShort value = some n) :
    Decimal.strtol value.toList = n ∧ 0 ≤ n ∧ n ≤ 65535 := by
  unfold representedShort at h
  dsimp only at h
  split_ifs at h with hvalue
  obtain ⟨hne, hdigits, hle⟩ := hvalue
  obtain rfl := Option.some.inj h
  refine ⟨Decimal.strtol_of_isDecimal ⟨[], [], value.toList, [], by simp, by simp, by simp, hne,
    List.all_eq_true.mp hdigits, .inl ⟨.inl rfl, rfl⟩⟩, by omega, by omega⟩

theorem xsdUnsignedShortParse_of_represented {value : String} {n : Int}
    (h : representedShort value = some n) :
    xsdUnsignedShortParse value = if n = 65535 then none else some n := by
  obtain ⟨hread, hlow, hhigh⟩ := representedShort_eq_some h
  have hcut : cutToInt (toLong n) = n := by
    refine cutToInt_toLong hlow ?_
    unfold intMax
    omega
  rw [xsdUnsignedShortParse_eq, hread, hcut]
  split_ifs <;> first | rfl | omega

/-! ## The texts and elements that are read rightly -/

theorem parse_eq_represented_iff (value : String) :
    xsdUnsignedShortParse value = representedShort value ↔ ReadsShort value := by
  unfold ReadsShort
  cases hrepresented : representedShort value with
  | some n =>
    obtain ⟨hread, -⟩ := representedShort_eq_some hrepresented
    rw [xsdUnsignedShortParse_of_represented hrepresented, hread]
    by_cases hlargest : n = 65535 <;> simp [hlargest]
  | none => exact xsdUnsignedShortParse_eq_none_iff value

/-- No other index is read just if the text stands for one or is refused. -/
theorem forall_parse_iff (value : String) :
    (∀ index, xsdUnsignedShortParse value = some index → representedShort value = some index) ↔
      (representedShort value).isSome ∨ RefusedNumber (Decimal.strtol value.toList) := by
  cases hrepresented : representedShort value with
  | some n =>
    rw [xsdUnsignedShortParse_of_represented hrepresented]
    by_cases hlargest : n = 65535 <;> simp [hlargest]
  | none =>
    rw [← xsdUnsignedShortParse_eq_none_iff, Option.eq_none_iff_forall_ne_some]
    simp

/-- The endpoint of an element with an index has the index that is read. -/
theorem loadEndpointType2_of_indexed {role : ProviderRole} {node : XmlNode}
    {endpoint : EndpointType} (hindexed : isIndexedElement node = true)
    (h : loadEndpointType2 role node = some endpoint) :
    (node.getProp "Binding").isSome ∧ (node.getProp "Location").isSome ∧
      ∃ value, node.getProp "index" = some value ∧
        xsdUnsignedShortParse value = some endpoint.index := by
  unfold isIndexedElement at hindexed
  unfold loadEndpointType2 at h
  split at h
  · rename_i kind binding url hkind hbinding hurl
    dsimp only at h
    rw [if_pos hindexed] at h
    obtain ⟨index, hindex, rfl⟩ := Option.map_eq_some_iff.mp h
    obtain ⟨value, hvalue, hparse⟩ := Option.bind_eq_some_iff.mp hindex
    exact ⟨by simp [hbinding], by simp [hurl], value, hvalue, hparse⟩
  · cases h

/-- A complete element with a text that is read for an index has an endpoint. -/
theorem exists_loadEndpointType2 {node : XmlNode} {value : String} {index : Int}
    (hindexed : isIndexedElement node = true) (hbinding : (node.getProp "Binding").isSome)
    (hurl : (node.getProp "Location").isSome) (hvalue : node.getProp "index" = some value)
    (hparse : xsdUnsignedShortParse value = some index) (role : ProviderRole) :
    ∃ endpoint, loadEndpointType2 role node = some endpoint ∧ endpoint.index = index := by
  obtain ⟨binding, hbinding⟩ := Option.isSome_iff_exists.mp hbinding
  obtain ⟨url, hurl⟩ := Option.isSome_iff_exists.mp hurl
  cases node with
  | element ns name attrs children =>
    unfold isIndexedElement at hindexed
    unfold loadEndpointType2
    rw [hbinding, hurl, hvalue]
    dsimp only [XmlNode.elementName]
    rw [if_pos hindexed, Option.bind_some, hparse]
    exact ⟨_, rfl, rfl⟩
  | _ => cases hindexed

theorem keepsIndex_iff (role : ProviderRole) (node : XmlNode) :
    KeepsIndex role node ↔ ReadsIndex node := by
  constructor
  · intro h hindexed hbinding hurl value hvalue
    rw [← forall_parse_iff]
    intro index hparse
    obtain ⟨endpoint, hload, rfl⟩ :=
      exists_loadEndpointType2 hindexed hbinding hurl hvalue hparse role
    have hkept := h endpoint hload hindexed
    rwa [hvalue, Option.bind_some] at hkept
  · intro h endpoint hload hindexed
    obtain ⟨hbinding, hurl, value, hvalue, hparse⟩ := loadEndpointType2_of_indexed hindexed hload
    rw [hvalue, Option.bind_some]
    exact (forall_parse_iff value).mpr (h hindexed hbinding hurl value hvalue) _ hparse

/-- The texts that are read for what they stand for, and the elements whose endpoint is not loaded
with another index. -/
theorem shortParse_iff (value : String) (role : ProviderRole) (node : XmlNode) :
    (xsdUnsignedShortParse value = representedShort value ↔ ReadsShort value) ∧
      (KeepsIndex role node ↔ ReadsIndex node) :=
  ⟨parse_eq_represented_iff value, keepsIndex_iff role node⟩

/-- The largest index is refused. A text without a number, with something behind it or with a number
beyond an `int` is read for an index, with which an endpoint is loaded. -/
theorem not_shortParse :
    ¬ (∀ value, xsdUnsignedShortParse value = representedShort value) ∧
    xsdUnsignedShortParse "65535" = none ∧ xsdUnsignedShortParse "" = some 0 ∧
    xsdUnsignedShortParse "12abc" = some 12 ∧
    (loadEndpointType2 .sp (consumerElement "4294967297" "https://sp.example/acs")).map (·.index) =
      some 1 := by
  refine ⟨fun h => ?_, by decide, by decide, by decide, by decide⟩
  have hlargest := h "65535"
  revert hlargest
  decide

end Lasso.Saml20
