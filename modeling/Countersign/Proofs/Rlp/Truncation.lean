import Countersign.Proofs.Rlp.Item

/-! Inputs that stop inside an item: a reader that has enough octets does not look at more, so
every part of a written form that is cut off behind its first octet lacks octets. -/

namespace Countersign.Rlp

variable {α β : Type}

/-- A reader does on a longer input what it does on a shorter one, unless it lacks octets there. -/
def Steady (reader : Bytes → Except DecodeError (α × Bytes)) : Prop :=
  ∀ data more, reader data = .error .unexpectedEnd ∨
    reader (data ++ more) = (reader data).map fun (value, rest) => (value, rest ++ more)

/-- A reader that takes nothing off the input is steady. -/
theorem Steady.pure (value : α) : Steady fun rest => .ok (value, rest) :=
  -- What follows is handed on as it came.
  fun _ _ => .inr rfl

/-- A reader that fails without looking is steady. -/
theorem Steady.throw (error : DecodeError) :
    Steady fun _ => (.error error : Except DecodeError (α × Bytes)) :=
  -- The error is there with fewer octets as well.
  fun _ _ => .inr rfl

/-- Steady readers in turn are a steady reader. -/
theorem Steady.bind {first : Bytes → Except DecodeError (α × Bytes)}
    {next : α × Bytes → Except DecodeError (β × Bytes)}
    (firstSteady : Steady first) (nextSteady : ∀ value, Steady fun rest => next (value, rest)) :
    Steady fun data => first data >>= next := by
  intro data more
  rcases firstSteady data more with lacking | same
  · exact .inl (by simp [lacking, Bind.bind, Except.bind])
  · cases ran : first data with
    | error error => simp [same, ran, Bind.bind, Except.bind, Except.map]
    | ok pair =>
      -- The second reader meets the rest of the first, with the same octets behind it.
      have others := nextSteady pair.1 pair.2 more
      simpa [same, ran, Bind.bind, Except.bind, Except.map] using others

/-- Cutting off octets is steady: what is behind them does not matter once they are there. -/
theorem cut_steady (width count : Nat) : Steady (cut width count) := by
  intro data more
  by_cases overflowing : Nat.pow 2 64 ≤ width + count
  -- The sum is tested without looking at the data.
  · exact .inr (by simp [cut, overflowing, Except.map])
  · by_cases lacking : data.length < count
    -- Here more data may help, and this is the error that says so.
    · exact .inl (by simp only [cut, if_neg overflowing, if_pos lacking])
    -- With enough data there is enough of it with more.
    · have enough : ¬ (data ++ more).length < count := by
        rw [List.length_append]
        omega
      refine .inr ?_
      simp only [cut, if_neg overflowing, if_neg lacking, if_neg enough, Except.map]
      rw [List.take_append_of_le_length (by omega), List.drop_append_of_le_length (by omega)]

/-- Reading a long length and its content is steady. -/
theorem cutLong_steady (width : Nat) : Steady (cutLong width) := by
  unfold cutLong
  apply (cut_steady 1 width).bind
  -- The length is judged after its octets have been cut off, without looking at the rest.
  intro digits
  by_cases zero : digits.head? = some 0
  · simp only [if_pos zero]
    exact .throw _
  · by_cases short : Bytes.toNat digits ≤ shortLimit
    · simp only [if_neg zero, if_pos short]
      exact .throw _
    · simp only [if_neg zero, if_neg short]
      exact cut_steady _ _

/-- Reading behind a lead octet is steady in each of the five forms. -/
theorem Item.splitLead_steady (lead : UInt8) : Steady (Item.splitLead lead) := by
  unfold Item.splitLead
  -- The lead octet is there, and it chooses the form before anything is cut off.
  by_cases own : lead.toNat < 0x80
  · simp only [if_pos own]
    exact .pure _
  by_cases shortString : lead.toNat ≤ 0xB7
  · simp only [if_neg own, if_pos shortString]
    apply (cut_steady _ _).bind
    intro content
    -- A single octet is tested once it is there, so it does not matter what follows.
    rcases content with _ | ⟨octet, _ | ⟨second, others⟩⟩
    · exact .pure (octets [])
    · by_cases alone : octet.toNat < stringBase
      · simp only [if_pos alone]
        exact .throw _
      · simp only [if_neg alone]
        exact .pure _
    · exact .pure (octets (octet :: second :: others))
  by_cases longString : lead.toNat ≤ 0xBF
  · simp only [if_neg own, if_neg shortString, if_pos longString]
    exact (cutLong_steady _).bind fun content => .pure (octets content)
  by_cases shortList : lead.toNat ≤ 0xF7
  · simp only [if_neg own, if_neg shortString, if_neg longString, if_pos shortList]
    exact (cut_steady _ _).bind fun payload => .pure (list payload)
  · simp only [if_neg own, if_neg shortString, if_neg longString, if_neg shortList]
    exact (cutLong_steady _).bind fun payload => .pure (list payload)

/-- A written form that is cut off behind its first octet lacks octets. -/
theorem Item.split?_of_write_append {item : Item} {front back : Bytes}
    (layout : item.write = front ++ back) (bounded : item.write.length < 2 ^ 64)
    (begun : front ≠ []) (unfinished : back ≠ []) :
    Item.split? front = .error .unexpectedEnd := by
  cases front with
  | nil => exact absurd rfl begun
  | cons lead tail =>
    have whole : Item.splitLead lead (tail ++ back) = .ok (item, []) :=
      Item.splitLead_of_write (by simp [layout]) bounded
    rw [Item.split?, map_eq_error_iff]
    rcases Item.splitLead_steady lead tail back with lacking | same
    · exact lacking
    · -- Else the item would be complete, and what has been cut off would be left over.
      rw [whole] at same
      obtain ⟨pair, -, left⟩ := map_eq_ok_iff.mp same.symm
      have nothing : pair.2 ++ back = [] := congrArg Prod.snd left
      exact absurd (List.append_eq_nil_iff.mp nothing).2 unfinished

end Countersign.Rlp
