import Countersign.Rlp.Item
import Countersign.Proofs.Bytes
import Countersign.Proofs.Outcome

/-! Items and octets correspond: an input begins with an item exactly when it begins with the
item's single written form. -/

namespace Countersign.Rlp

/-- Octets are cut off exactly when the input begins with that many and no length overflows. -/
theorem cut_eq_ok_iff {width count : Nat} {data part rest : Bytes} :
    cut width count data = .ok (part, rest) ↔
      width + count < 2 ^ 64 ∧ part.length = count ∧ data = part ++ rest := by
  have words : Nat.pow 2 64 = 2 ^ 64 := rfl
  unfold cut
  constructor
  · intro found
    split at found
    · cases found
    · split at found
      · cases found
      · -- What is taken and what is dropped make up the input.
        cases found
        refine ⟨by omega, ?_, (List.take_append_drop count data).symm⟩
        rw [List.length_take]
        omega
  · intro laidOut
    obtain ⟨bounded, rfl, rfl⟩ := laidOut
    rw [if_neg (by omega), if_neg (by simp)]
    simp

/-- A long length is read exactly when its shortest octets stand in front of the content. -/
theorem cutLong_eq_ok_iff {width : Nat} {data part rest : Bytes} :
    cutLong width data = .ok (part, rest) ↔
      shortLimit < part.length ∧ (Bytes.ofNat part.length).length = width ∧
        1 + width + part.length < 2 ^ 64 ∧ data = Bytes.ofNat part.length ++ (part ++ rest) := by
  unfold cutLong
  constructor
  · intro found
    obtain ⟨⟨digits, behind⟩, digitsCut, afterDigits⟩ := bind_eq_ok_iff.mp found
    obtain ⟨-, digitsLength, rfl⟩ := cut_eq_ok_iff.mp digitsCut
    simp only at afterDigits
    split at afterDigits
    · cases afterDigits
    · rename_i minimal
      split at afterDigits
      · cases afterDigits
      · rename_i long
        obtain ⟨bounded, partLength, rfl⟩ := cut_eq_ok_iff.mp afterDigits
        -- Digits without a leading zero are the shortest ones of the length they declare.
        rw [partLength, Bytes.ofNat_toNat minimal]
        exact ⟨by omega, digitsLength, by omega, rfl⟩
  · intro laidOut
    obtain ⟨long, rfl, bounded, rfl⟩ := laidOut
    have digitsCut : cut 1 (Bytes.ofNat part.length).length
        (Bytes.ofNat part.length ++ (part ++ rest)) =
          .ok (Bytes.ofNat part.length, part ++ rest) :=
      cut_eq_ok_iff.mpr ⟨by omega, rfl, rfl⟩
    have partCut : cut (1 + (Bytes.ofNat part.length).length) part.length (part ++ rest) =
        .ok (part, rest) :=
      cut_eq_ok_iff.mpr ⟨bounded, rfl, rfl⟩
    rw [digitsCut]
    simp only [bind, Except.bind, Bytes.toNat_ofNat]
    rw [if_neg (Bytes.head?_ofNat _), if_neg (by omega)]
    exact partCut

/-- A short header is one octet, which declares the length above the base. -/
theorem header_of_short {base length : Nat} (short : length ≤ shortLimit) :
    header base length = [UInt8.ofNat (base + length)] := by
  -- The length fits the lead octet.
  rw [header, if_pos short]

/-- A long header is the lead octet and the shortest octets of the length. -/
theorem header_of_long {base length : Nat} (long : shortLimit < length) :
    header base length =
      UInt8.ofNat (base + shortLimit + (Bytes.ofNat length).length) :: Bytes.ofNat length := by
  -- The lead octet declares how many octets the length takes.
  rw [header, if_neg (by omega)]

/-- A string stands behind a header unless it is a single octet below the string base. -/
theorem Item.write_octets {content : Bytes}
    (headed : ∀ octet, content = [octet] → stringBase ≤ octet.toNat) :
    (Item.octets content).write = header stringBase content.length ++ content := by
  -- Only the form of a single octet looks at the octet itself.
  match content, headed with
  | [], _ => rfl
  | [octet], headed =>
    have := headed octet rfl
    simp only [Item.write]
    rw [if_neg (by omega), List.length_singleton]
  | _ :: _ :: _, _ => rfl

/-- A single octet below the string base is its own written form. -/
theorem Item.write_own {octet : UInt8} (own : octet.toNat < stringBase) :
    (Item.octets [octet]).write = [octet] := by
  -- No header is needed.
  simp only [Item.write, if_pos own]

/-- Every string is written in one of these two ways. -/
theorem Item.write_octets_cases (content : Bytes) :
    (∃ octet : UInt8, content = [octet] ∧ octet.toNat < stringBase ∧
        (Item.octets content).write = [octet]) ∨
      (∀ octet, content = [octet] → stringBase ≤ octet.toNat) ∧
        (Item.octets content).write = header stringBase content.length ++ content := by
  -- The one exception is a single octet below the range of headers.
  by_cases own : ∃ octet, content = [octet] ∧ octet.toNat < stringBase
  · obtain ⟨octet, rfl, own⟩ := own
    exact .inl ⟨octet, rfl, own, Item.write_own own⟩
  · have headed : ∀ octet, content = [octet] → stringBase ≤ octet.toNat := by
      intro octet single
      by_contra below
      exact own ⟨octet, single, by omega⟩
    exact .inr ⟨headed, Item.write_octets headed⟩

/-- A list is its payload behind a header. -/
theorem Item.write_list (payload : Bytes) :
    (Item.list payload).write = header listBase payload.length ++ payload := rfl

/-- A lead octet below the string base is an item by itself. -/
theorem Item.splitLead_own {lead : UInt8} (own : lead.toNat < 0x80) (tail : Bytes) :
    Item.splitLead lead tail = .ok (.octets [lead], tail) := by
  -- The first form needs nothing but the lead octet.
  rw [Item.splitLead, if_pos own]

/-- A lead octet of a short string is followed by as many octets as it declares. -/
theorem Item.splitLead_shortString {lead : UInt8} {tail rest : Bytes} {item : Item}
    (low : 0x80 ≤ lead.toNat) (high : lead.toNat ≤ 0xB7) :
    Item.splitLead lead tail = .ok (item, rest) ↔
      ∃ content, item = .octets content ∧
        (∀ octet, content = [octet] → stringBase ≤ octet.toNat) ∧
        content.length = lead.toNat - 0x80 ∧ tail = content ++ rest := by
  rw [Item.splitLead, if_neg (by omega), if_pos high, bind_eq_ok_iff]
  constructor
  · intro steps
    obtain ⟨⟨content, behind⟩, contentCut, checked⟩ := steps
    obtain ⟨-, contentLength, rfl⟩ := cut_eq_ok_iff.mp contentCut
    -- A single octet has passed the test only if it could not have stood alone.
    rcases content with _ | ⟨octet, _ | ⟨second, others⟩⟩
    · cases checked
      exact ⟨[], rfl, by simp, contentLength, rfl⟩
    · simp only at checked
      split at checked
      · cases checked
      · rename_i headed
        cases checked
        refine ⟨[octet], rfl, ?_, contentLength, rfl⟩
        intro own same
        cases same
        omega
    · cases checked
      exact ⟨octet :: second :: others, rfl, by simp, contentLength, rfl⟩
  · intro laidOut
    obtain ⟨content, rfl, headed, contentLength, rfl⟩ := laidOut
    refine ⟨(content, rest), cut_eq_ok_iff.mpr ⟨by omega, contentLength, rfl⟩, ?_⟩
    rcases content with _ | ⟨octet, _ | ⟨second, others⟩⟩
    · rfl
    · have := headed octet rfl
      simp only
      rw [if_neg (by omega)]
      rfl
    · rfl

/-- A lead octet of a long string is followed by the length and as many octets as it says. -/
theorem Item.splitLead_longString {lead : UInt8} {tail rest : Bytes} {item : Item}
    (low : 0xB7 < lead.toNat) (high : lead.toNat ≤ 0xBF) :
    Item.splitLead lead tail = .ok (item, rest) ↔
      ∃ content, item = .octets content ∧
        cutLong (lead.toNat - 0xB7) tail = .ok (content, rest) := by
  -- Of five ranges this is the third.
  rw [Item.splitLead, if_neg (by omega), if_neg (by omega), if_pos high, bind_eq_ok_iff]
  constructor
  · intro steps
    obtain ⟨⟨content, behind⟩, contentCut, made⟩ := steps
    cases made
    exact ⟨content, rfl, contentCut⟩
  · intro laidOut
    obtain ⟨content, rfl, contentCut⟩ := laidOut
    exact ⟨(content, rest), contentCut, rfl⟩

/-- A lead octet of a short list is followed by as many octets of payload as it declares. -/
theorem Item.splitLead_shortList {lead : UInt8} {tail rest : Bytes} {item : Item}
    (low : 0xBF < lead.toNat) (high : lead.toNat ≤ 0xF7) :
    Item.splitLead lead tail = .ok (item, rest) ↔
      ∃ payload, item = .list payload ∧
        payload.length = lead.toNat - 0xC0 ∧ tail = payload ++ rest := by
  -- Of five ranges this is the fourth.
  rw [Item.splitLead, if_neg (by omega), if_neg (by omega), if_neg (by omega), if_pos high,
    bind_eq_ok_iff]
  constructor
  · intro steps
    obtain ⟨⟨payload, behind⟩, payloadCut, made⟩ := steps
    cases made
    obtain ⟨-, payloadLength, rfl⟩ := cut_eq_ok_iff.mp payloadCut
    exact ⟨payload, rfl, payloadLength, rfl⟩
  · intro laidOut
    obtain ⟨payload, rfl, payloadLength, rfl⟩ := laidOut
    exact ⟨(payload, rest), cut_eq_ok_iff.mpr ⟨by omega, payloadLength, rfl⟩, rfl⟩

/-- A lead octet of a long list is followed by the length and as much payload as it says. -/
theorem Item.splitLead_longList {lead : UInt8} {tail rest : Bytes} {item : Item}
    (low : 0xF7 < lead.toNat) :
    Item.splitLead lead tail = .ok (item, rest) ↔
      ∃ payload, item = .list payload ∧
        cutLong (lead.toNat - 0xF7) tail = .ok (payload, rest) := by
  -- Of five ranges this is the last.
  rw [Item.splitLead, if_neg (by omega), if_neg (by omega), if_neg (by omega),
    if_neg (by omega), bind_eq_ok_iff]
  constructor
  · intro steps
    obtain ⟨⟨payload, behind⟩, payloadCut, made⟩ := steps
    cases made
    exact ⟨payload, rfl, payloadCut⟩
  · intro laidOut
    obtain ⟨payload, rfl, payloadCut⟩ := laidOut
    exact ⟨(payload, rest), payloadCut, rfl⟩

/-- Octets begin with a short header and its content when the lead octet declares the length. -/
theorem cons_eq_header_of_short {base : Nat} {lead : UInt8} {tail content rest : Bytes}
    (short : content.length ≤ shortLimit) (fits : base + shortLimit < 256) :
    lead :: tail = header base content.length ++ content ++ rest ↔
      lead.toNat = base + content.length ∧ tail = content ++ rest := by
  -- The sum is below two hundred and fifty-six, so no part of it is lost in the octet.
  have octet : (UInt8.ofNat (base + content.length)).toNat = base + content.length :=
    UInt8.toNat_ofNat_of_lt' (by change _ < 256; omega)
  rw [header_of_short short, List.append_assoc, List.singleton_append, List.cons.injEq,
    ← UInt8.toNat_inj, octet]

/-- The same for a long header, where the length stands in octets of its own. -/
theorem cons_eq_header_of_long {base : Nat} {lead : UInt8} {tail content rest : Bytes}
    (long : shortLimit < content.length)
    (fits : base + shortLimit + (Bytes.ofNat content.length).length < 256) :
    lead :: tail = header base content.length ++ content ++ rest ↔
      lead.toNat = base + shortLimit + (Bytes.ofNat content.length).length ∧
        tail = Bytes.ofNat content.length ++ (content ++ rest) := by
  -- Nor is it here, where the octet declares how many octets the length has.
  have octet := UInt8.toNat_ofNat_of_lt' (n := base + shortLimit +
    (Bytes.ofNat content.length).length) (by change _ < 256; omega)
  rw [header_of_long long, List.append_assoc, List.cons_append, List.cons.injEq,
    ← UInt8.toNat_inj, octet]

/-- A length of sixty-four bits takes between one and eight octets. -/
theorem length_ofNat_of_long {length : Nat} (long : shortLimit < length) (fits : length < 2 ^ 64) :
    0 < (Bytes.ofNat length).length ∧ (Bytes.ofNat length).length ≤ 8 := by
  have positive : 0 < length := by
    unfold shortLimit at long
    omega
  -- Only zero has no octets.
  constructor
  · rw [Bytes.ofNat_of_pos positive, List.length_append, List.length_singleton]
    omega
  · exact Bytes.length_ofNat_le (by omega)

/-- A header and its content have a bounded length together when the reader's sum has. -/
theorem length_header_append {base : Nat} (content : Bytes) :
    (header base content.length ++ content).length =
      if content.length ≤ shortLimit then 1 + content.length
      else 1 + (Bytes.ofNat content.length).length + content.length := by
  -- A short header is one octet; a long one has the octets of the length as well.
  split
  · rename_i short
    rw [header_of_short short, List.length_append, List.length_singleton]
  · rename_i long
    rw [header_of_long (by omega), List.length_append, List.length_cons]
    omega

/-- Octets begin with a header and its content in one of two ways: the lead octet declares the
length of what is cut off, or a long length stands behind it. -/
theorem cons_eq_header_iff {base : Nat} {lead : UInt8} {tail content rest : Bytes}
    (fits : base + shortLimit + 8 < 256) :
    (lead :: tail = header base content.length ++ content ++ rest ∧
        (header base content.length ++ content).length < 2 ^ 64) ↔
      (content.length ≤ shortLimit ∧ lead.toNat = base + content.length ∧
          tail = content ++ rest) ∨
        (base + shortLimit < lead.toNat ∧ lead.toNat ≤ base + shortLimit + 8 ∧
          cutLong (lead.toNat - (base + shortLimit)) tail = .ok (content, rest)) := by
  have limit : shortLimit = 55 := rfl
  rw [length_header_append]
  rcases Nat.lt_or_ge shortLimit content.length with long | short
  · rw [if_neg (by omega)]
    constructor
    · intro laidOut
      obtain ⟨layout, bounded⟩ := laidOut
      obtain ⟨positive, eight⟩ := length_ofNat_of_long long (by omega)
      obtain ⟨declared, rfl⟩ := (cons_eq_header_of_long long (by omega)).mp layout
      refine .inr ⟨by omega, by omega, ?_⟩
      exact cutLong_eq_ok_iff.mpr ⟨long, by omega, by omega, rfl⟩
    · intro declared
      rcases declared with ⟨short, -, -⟩ | ⟨above, below, contentCut⟩
      · omega
      · obtain ⟨-, width, bounded, rfl⟩ := cutLong_eq_ok_iff.mp contentCut
        rw [cons_eq_header_of_long long (by omega)]
        exact ⟨⟨by omega, rfl⟩, by omega⟩
  · rw [if_pos short, cons_eq_header_of_short short (by omega)]
    constructor
    · intro laidOut
      obtain ⟨⟨declared, layout⟩, -⟩ := laidOut
      exact .inl ⟨short, declared, layout⟩
    · intro declared
      rcases declared with ⟨-, declared, layout⟩ | ⟨-, -, contentCut⟩
      · exact ⟨⟨declared, layout⟩, by omega⟩
      · -- A long length is never that of a short content.
        obtain ⟨long, -⟩ := cutLong_eq_ok_iff.mp contentCut
        omega

/-- Reading at a lead octet gives the item whose written form begins there. -/
theorem Item.write_of_splitLead {lead : UInt8} {tail rest : Bytes} {item : Item}
    (found : Item.splitLead lead tail = .ok (item, rest)) :
    lead :: tail = item.write ++ rest ∧ item.write.length < 2 ^ 64 := by
  have octet := lead.toNat_lt
  have limit : shortLimit = 55 := rfl
  -- Each range of the lead octet is one of the five forms.
  rcases Nat.lt_or_ge lead.toNat 0x80 with own | notOwn
  · rw [Item.splitLead_own own] at found
    cases found
    rw [Item.write_own own]
    exact ⟨rfl, by simp⟩
  rcases Nat.lt_or_ge 0xB7 lead.toNat with notShortString | shortString
  · rcases Nat.lt_or_ge 0xBF lead.toNat with notLongString | longString
    · rcases Nat.lt_or_ge 0xF7 lead.toNat with longList | shortList
      · obtain ⟨payload, rfl, payloadCut⟩ := (Item.splitLead_longList longList).mp found
        rw [Item.write_list, cons_eq_header_iff (by decide)]
        exact .inr ⟨longList, by unfold listBase; omega, payloadCut⟩
      · obtain ⟨payload, rfl, payloadLength, rfl⟩ :=
          (Item.splitLead_shortList notLongString shortList).mp found
        rw [Item.write_list, cons_eq_header_iff (by decide)]
        exact .inl ⟨by omega, by unfold listBase; omega, rfl⟩
    · obtain ⟨content, rfl, contentCut⟩ :=
        (Item.splitLead_longString notShortString longString).mp found
      obtain ⟨long, -⟩ := cutLong_eq_ok_iff.mp contentCut
      have headed : ∀ octet, content = [octet] → stringBase ≤ octet.toNat := by
        intro octet same
        subst same
        simp only [List.length_singleton] at long
        omega
      rw [Item.write_octets headed, cons_eq_header_iff (by decide)]
      exact .inr ⟨notShortString, longString, contentCut⟩
  · obtain ⟨content, rfl, headed, contentLength, rfl⟩ :=
      (Item.splitLead_shortString notOwn shortString).mp found
    rw [Item.write_octets headed, cons_eq_header_iff (by decide)]
    exact .inl ⟨by omega, by unfold stringBase; omega, rfl⟩

/-- Reading at the lead octet of a written form gives its item. -/
theorem Item.splitLead_of_write {lead : UInt8} {tail rest : Bytes} {item : Item}
    (layout : lead :: tail = item.write ++ rest) (bounded : item.write.length < 2 ^ 64) :
    Item.splitLead lead tail = .ok (item, rest) := by
  have limit : shortLimit = 55 := rfl
  cases item with
  | octets content =>
    -- By the form of the header, of which a single small octet has none.
    rcases Item.write_octets_cases content with ⟨octet, rfl, own, written⟩ | ⟨headed, written⟩
    · rw [written, List.singleton_append, List.cons.injEq] at layout
      obtain ⟨rfl, rfl⟩ := layout
      exact Item.splitLead_own own tail
    · have base : stringBase = 0x80 := rfl
      rw [written] at layout bounded
      rcases (cons_eq_header_iff (by decide)).mp ⟨layout, bounded⟩ with
        ⟨short, declared, rfl⟩ | ⟨above, below, contentCut⟩
      · rw [Item.splitLead_shortString (by omega) (by omega)]
        exact ⟨content, rfl, headed, by omega, rfl⟩
      · rw [Item.splitLead_longString (by omega) (by omega)]
        exact ⟨content, rfl, contentCut⟩
  | list payload =>
    -- Lists have the same two headers over another base.
    have base : listBase = 0xC0 := rfl
    rw [Item.write_list] at layout bounded
    rcases (cons_eq_header_iff (by decide)).mp ⟨layout, bounded⟩ with
      ⟨short, declared, rfl⟩ | ⟨above, below, payloadCut⟩
    · rw [Item.splitLead_shortList (by omega) (by omega)]
      exact ⟨payload, rfl, by omega, rfl⟩
    · rw [Item.splitLead_longList (by omega)]
      exact ⟨payload, rfl, payloadCut⟩

/-- A header is never empty. -/
theorem header_ne_nil (base length : Nat) : header base length ≠ [] := by
  -- Both forms have a lead octet.
  unfold header
  split <;> simp

/-- A written form is never empty. -/
theorem Item.write_ne_nil (item : Item) : item.write ≠ [] := by
  -- There is a header, or a single octet in its place.
  cases item with
  | octets content =>
    rcases Item.write_octets_cases content with ⟨octet, -, -, written⟩ | ⟨-, written⟩
    · simp [written]
    · simp [written, header_ne_nil]
  | list payload => simp [Item.write_list, header_ne_nil]

/-- An input begins with an item exactly when it begins with the item's written form. -/
theorem Item.split?_eq_some_iff {data rest : Bytes} {item : Item} :
    Item.split? data = .ok (some (item, rest)) ↔
      data = item.write ++ rest ∧ item.write.length < 2 ^ 64 := by
  cases data with
  | nil =>
    -- There is no lead octet, neither to read nor to write.
    constructor
    · intro found
      cases found
    · intro laidOut
      obtain ⟨layout, -⟩ := laidOut
      exact absurd (List.append_eq_nil_iff.mp layout.symm).1 item.write_ne_nil
  | cons lead tail =>
    rw [Item.split?, map_eq_ok_iff]
    constructor
    · intro steps
      obtain ⟨found, splitFound, same⟩ := steps
      cases same
      exact Item.write_of_splitLead splitFound
    · intro laidOut
      obtain ⟨layout, bounded⟩ := laidOut
      exact ⟨(item, rest), Item.splitLead_of_write layout bounded, rfl⟩

/-- An input without a first item is empty. -/
theorem Item.eq_nil_of_split {data : Bytes} (ended : Item.split? data = .ok none) : data = [] := by
  cases data with
  | nil => rfl
  | cons lead tail =>
    -- Behind a lead octet there is an item or an error.
    obtain ⟨found, -, impossible⟩ := map_eq_ok_iff.mp ended
    cases impossible

end Countersign.Rlp
