import DocPages.Html.Escape
import DocPages.Html.Token

/-!
# Escaped Text Read Back

Escaping replaces six bytes by character references, three of them named and three numbered.  Reading
the references of an escaped text gives the text back, whatever follows it, in text and in the value of
an attribute alike: the two readings differ only in names without a semicolon, which escaping never
writes.

## Main results

- `Html.decodeFrom_escapeByte`: one byte, escaped and read again
- `Html.decodeFrom_escape`, `Html.decodeReferences_escape`: a whole text
- `Html.notMem_escape`: an escaped text cannot open a tag
-/

namespace DocPages

namespace Html

/-! ## §1 The references that escaping writes -/

variable {inAttribute : Bool}

theorem character?_amp : character? (bytes "amp") = some (bytes "&") := by decide +kernel

theorem character?_lt : character? (bytes "lt") = some (bytes "<") := by decide +kernel

theorem character?_gt : character? (bytes "gt") = some (bytes ">") := by decide +kernel

theorem character?_rarr : character? (bytes "rarr") = some (bytes "→") := by decide +kernel

/-- A name up to its semicolon is looked up, whatever follows. -/
theorem reference?_named {name c : Bytes} (hname : name.all Bytes.isAlphanumeric = true)
    (hne : name ≠ []) (hc : character? name = some c) (rest : Bytes) :
    reference? inAttribute (name ++ byte ';' :: rest) = some (c, name.length + 1) := by
  have hname := List.all_eq_true.1 hname
  have hsemicolon : Bytes.isAlphanumeric (byte ';') = false := by decide
  have htake : (name ++ byte ';' :: rest).takeWhile Bytes.isAlphanumeric = name := by
    rw [List.takeWhile_append_of_pos hname, List.takeWhile_cons_of_neg (by simp [hsemicolon]),
      List.append_nil]
  unfold reference?
  split
  · -- a number sign is no part of a name
    next heq =>
    cases name with
    | nil => exact absurd rfl hne
    | cons b name =>
      obtain rfl : b = 0x23 := (List.cons.inj heq).1
      exact absurd (hname _ List.mem_cons_self) (by decide)
  · simp [namedReference?, htake, hc]

theorem decodeFrom_append (x rest : Bytes) :
    decodeFrom inAttribute x.length (x ++ rest) = decodeFrom inAttribute 0 rest := by
  induction x with
  | nil => rfl
  | cons b x ih => exact ih

/-- A reference is replaced by what it stands for. -/
theorem decodeFrom_reference {x c : Bytes} {rest : Bytes}
    (h : reference? inAttribute (x ++ rest) = some (c, x.length)) :
    decodeFrom inAttribute 0 (byte '&' :: (x ++ rest)) = c ++ decodeFrom inAttribute 0 rest := by
  simp only [decodeFrom, if_true, h]
  rw [decodeFrom_append]

theorem decodeFrom_named {name c : Bytes} (hname : name.all Bytes.isAlphanumeric = true)
    (hne : name ≠ []) (hc : character? name = some c) (rest : Bytes) :
    decodeFrom inAttribute 0 (byte '&' :: (name ++ [byte ';'] ++ rest)) =
      c ++ decodeFrom inAttribute 0 rest := by
  apply decodeFrom_reference
  simpa using reference?_named hname hne hc rest

/-! ## §2 Reading escaped text -/

theorem decodeFrom_escapeByte (b : UInt8) (rest : Bytes) :
    decodeFrom inAttribute 0 (escapeByte b ++ rest) = b :: decodeFrom inAttribute 0 rest := by
  unfold escapeByte
  split
  · exact decodeFrom_named (by decide) (by decide) character?_amp rest
  · exact decodeFrom_reference (x := bytes "#39;") rfl
  · exact decodeFrom_named (by decide) (by decide) character?_lt rest
  · exact decodeFrom_named (by decide) (by decide) character?_gt rest
  · exact decodeFrom_reference (x := bytes "#34;") rfl
  · exact decodeFrom_reference (x := bytes "#13;") rfl
  · next hamp _ _ _ _ _ =>
    have hb : b ≠ byte '&' := hamp
    simp [decodeFrom, hb]

/-- Escaped text is read as the text itself, in front of any other. -/
theorem decodeFrom_escape (s rest : Bytes) :
    decodeFrom inAttribute 0 (escape s ++ rest) = s ++ decodeFrom inAttribute 0 rest := by
  induction s with
  | nil => rfl
  | cons b s ih =>
    have hcons : escape (b :: s) ++ rest = escapeByte b ++ (escape s ++ rest) := by
      rw [← List.append_assoc]
      rfl
    rw [hcons, decodeFrom_escapeByte, ih, List.cons_append]

theorem decodeReferences_escape (s : Bytes) : decodeReferences inAttribute (escape s) = s := by
  simpa [decodeReferences, decodeFrom] using decodeFrom_escape s []

/-- The bytes that delimit tags and attribute values do not stand in escaped text. -/
theorem delimiter_notMem_escape {c : UInt8} (hc : c = byte '<' ∨ c = byte '>' ∨ c = byte '"')
    (s : Bytes) : c ∉ escape s := by
  intro h
  obtain ⟨b, -, hb⟩ := List.mem_flatMap.1 h
  unfold escapeByte at hb
  split at hb
  -- no reference holds such a byte, and the bytes themselves are among those replaced
  all_goals try (rcases hc with rfl | rfl | rfl <;> exact absurd hb (by decide))
  next hlt hgt hquote _ =>
    obtain rfl := List.mem_singleton.1 hb
    rcases hc with hc | hc | hc
    · exact hlt hc
    · exact hgt hc
    · exact hquote hc

/-- Escaped text opens no tag. -/
theorem notMem_escape (s : Bytes) : byte '<' ∉ escape s := delimiter_notMem_escape (Or.inl rfl) s

end Html

end DocPages
