import Mathlib.Algebra.Ring.Nat
import DocPages.Digest.Pages
import DocPages.Proofs.ByteText

/-!
# What a Digest Covers

The digest of a site is the hash of one stream, in which a zero byte follows each path and each
content.  Nothing tells these zero bytes from others: a page whose content holds zero bytes, as the
assets of templates may, is written like several pages.  What the stream fixes is the list of pieces
between its zero bytes, and so the pages themselves if none of their texts has a zero byte.

## Main results

- `pieces`, `splitOn_digestStream`: the pieces of a stream are those of its paths and contents
- `eq_of_pieces_eq`: without zero bytes the pieces give back the pages
- `exists_other_page`, `exists_single_page`: lists that have another list's stream
- `eq_singleton_of_digestStream`: the streams no other list has
- `Bytes.hex_inj`: equal digests are equal hashes
- `digest_unambiguous_iff`: which lists of pages have a stream of their own
-/

namespace DocPages

/-! ## §1 The pieces of a stream -/

/-- The paths and contents of pages in their order, cut at their zero bytes. -/
def pieces (pages : List Page) : List Bytes :=
  pages.flatMap fun p => Bytes.splitOn 0 p.path ++ Bytes.splitOn 0 p.content

theorem pieces_cons (p : Page) (pages : List Page) :
    pieces (p :: pages) = Bytes.splitOn 0 p.path ++ Bytes.splitOn 0 p.content ++ pieces pages :=
  List.flatMap_cons

theorem digestStream_cons (p : Page) (pages : List Page) :
    digestStream (p :: pages) = p.path ++ 0 :: (p.content ++ 0 :: digestStream pages) := by
  simp [digestStream]

/-- Cut at its zero bytes, a stream gives the pieces of its pages and, behind the last one, nothing. -/
theorem splitOn_digestStream (pages : List Page) :
    Bytes.splitOn 0 (digestStream pages) = pieces pages ++ [[]] := by
  induction pages with
  | nil => rfl
  | cons p pages ih =>
    rw [digestStream_cons, Bytes.splitOn_append_sep, Bytes.splitOn_append_sep, ih, pieces_cons]
    simp only [List.append_assoc]

/-- Two streams are the same exactly when they have the same pieces. -/
theorem digestStream_eq_iff {ps qs : List Page} :
    digestStream ps = digestStream qs ↔ pieces ps = pieces qs := by
  constructor
  · intro h
    have hsplit := congrArg (Bytes.splitOn 0) h
    rw [splitOn_digestStream, splitOn_digestStream] at hsplit
    exact List.append_cancel_right hsplit
  · intro h
    -- joining the pieces gives the stream back
    rw [← Bytes.join_splitOn 0 (digestStream ps), ← Bytes.join_splitOn 0 (digestStream qs),
      splitOn_digestStream, splitOn_digestStream, h]

/-- Two pieces for each page, and one more for each zero byte in it. -/
theorem length_pieces (pages : List Page) :
    (pieces pages).length =
      2 * pages.length + (pages.map fun p => p.path.count 0 + p.content.count 0).sum := by
  induction pages with
  | nil => rfl
  | cons p pages ih =>
    rw [pieces_cons]
    simp only [List.length_append, Bytes.length_splitOn, ih, List.length_cons, List.map_cons,
      List.sum_cons]
    omega

/-! ## §2 Pages without zero bytes -/

/-- Neither the path nor the content of a page has a zero byte. -/
def Page.ZeroFree (p : Page) : Prop := 0 ∉ p.path ∧ 0 ∉ p.content

instance (p : Page) : Decidable p.ZeroFree := inferInstanceAs (Decidable (_ ∧ _))

theorem pieces_cons_of_zeroFree {p : Page} (hp : p.ZeroFree) (pages : List Page) :
    pieces (p :: pages) = p.path :: p.content :: pieces pages := by
  rw [pieces_cons, Bytes.splitOn_of_notMem hp.1, Bytes.splitOn_of_notMem hp.2]
  rfl

/-- Pages without zero bytes can be read off their pieces, two for each page. -/
theorem eq_of_pieces_eq {ps qs : List Page} (hps : ∀ p ∈ ps, p.ZeroFree) (hqs : ∀ q ∈ qs, q.ZeroFree)
    (h : pieces ps = pieces qs) : ps = qs := by
  induction ps generalizing qs with
  | nil =>
    cases qs with
    | nil => rfl
    | cons q qs =>
      rw [pieces_cons_of_zeroFree (hqs q List.mem_cons_self)] at h
      exact absurd h (by simp [pieces])
  | cons p ps ih =>
    rw [pieces_cons_of_zeroFree (hps p List.mem_cons_self)] at h
    cases qs with
    | nil => exact absurd h (by simp [pieces])
    | cons q qs =>
      rw [pieces_cons_of_zeroFree (hqs q List.mem_cons_self)] at h
      obtain ⟨hpath, hcontent, hrest⟩ : p.path = q.path ∧ p.content = q.content ∧
          pieces ps = pieces qs := by simpa using h
      have htail := ih (fun p hp => hps p (List.mem_cons_of_mem _ hp))
        (fun q hq => hqs q (List.mem_cons_of_mem _ hq)) hrest
      obtain ⟨path, content⟩ := p
      obtain ⟨path', content'⟩ := q
      simp only at hpath hcontent
      rw [hpath, hcontent, htail]

/-! ## §3 Other pages with the same stream -/

/-- A page with a zero byte has the stream of another page: the boundary between path and content can be
    taken to be that byte. -/
theorem exists_other_page {p : Page} (hp : ¬p.ZeroFree) :
    ∃ q, q ≠ p ∧ digestStream [q] = digestStream [p] := by
  obtain ⟨path, content⟩ := p
  have hzero : 0 ∈ path ∨ 0 ∈ content := by
    by_contra hnone
    exact hp (not_or.1 hnone)
  -- with the boundary elsewhere, the path has another length
  have hne : ∀ {p q : Page}, q.path.length ≠ p.path.length → q ≠ p := by
    intro p q hlength heq
    exact hlength (by rw [heq])
  rcases hzero with hzero | hzero
  · obtain ⟨u, v, rfl⟩ := List.append_of_mem hzero
    exact ⟨⟨u, v ++ 0 :: content⟩, hne (by simp), by simp [digestStream]⟩
  · obtain ⟨u, v, rfl⟩ := List.append_of_mem hzero
    exact ⟨⟨path ++ 0 :: u, v⟩, hne (by simp), by simp [digestStream]⟩

/-- A zero byte ends the stream of one page or more. -/
theorem exists_digestStream_eq (p : Page) (pages : List Page) :
    ∃ body, digestStream (p :: pages) = body ++ [0] := by
  induction pages generalizing p with
  | nil => exact ⟨p.path ++ 0 :: p.content, by simp [digestStream]⟩
  | cons q pages ih =>
    obtain ⟨body, hbody⟩ := ih q
    exact ⟨p.path ++ 0 :: (p.content ++ 0 :: body), by rw [digestStream_cons, hbody]; simp⟩

/-- One page or more have the stream of a single page. -/
theorem exists_single_page (p : Page) (pages : List Page) :
    ∃ q, digestStream [q] = digestStream (p :: pages) := by
  cases pages with
  | nil => exact ⟨p, rfl⟩
  | cons p' pages =>
    -- all pages behind the first one go into its content, but for the zero byte at the end
    obtain ⟨body, hbody⟩ := exists_digestStream_eq p' pages
    refine ⟨⟨p.path, p.content ++ 0 :: body⟩, ?_⟩
    rw [digestStream_cons p, hbody]
    simp [digestStream]

/-- Nothing else has the stream of a single page without zero bytes. -/
theorem eq_singleton_of_digestStream {p : Page} (hp : p.ZeroFree) {qs : List Page}
    (h : digestStream qs = digestStream [p]) : qs = [p] := by
  have hpieces := digestStream_eq_iff.1 h
  have htwo : (pieces [p]).length = 2 := by rw [pieces_cons_of_zeroFree hp]; rfl
  -- two pieces leave room for one page, and a zero byte in it would make a third
  have hcount := length_pieces qs
  rw [hpieces, htwo] at hcount
  apply eq_of_pieces_eq _ (by simpa using hp) hpieces
  match qs with
  | [] => simp at hcount
  | q :: q' :: qs => simp at hcount; omega
  | [q] =>
    intro q' hq'
    obtain rfl := List.mem_singleton.1 hq'
    have hnone : q'.path.count 0 + q'.content.count 0 = 0 := by simpa using hcount
    exact ⟨List.count_eq_zero.1 (by omega), List.count_eq_zero.1 (by omega)⟩

/-! ## §4 Hexadecimal form -/

namespace Bytes

theorem hexByte_inj {a b : UInt8} (h : hexByte a = hexByte b) : a = b := by
  obtain ⟨hhigh, hlow⟩ : hexDigit (a.toNat / 16) = hexDigit (b.toNat / 16) ∧
      hexDigit (a.toNat % 16) = hexDigit (b.toNat % 16) := by simpa [hexByte] using h
  have ha := a.toNat_lt
  have hb := b.toNat_lt
  have hdigit : ∀ {m n : Nat}, m < 16 → n < 16 → hexDigit m = hexDigit n → m = n := by
    intro m n hm hn heq
    have := (hexValue?_hexDigit hm).symm.trans (heq ▸ hexValue?_hexDigit hn)
    exact Option.some.inj this
  have hdiv := hdigit (by omega) (by omega) hhigh
  have hmod := hdigit (by omega) (by omega) hlow
  apply UInt8.toNat_inj.1
  omega

/-- Texts with the same hexadecimal form are the same. -/
theorem hex_inj {s t : Bytes} (h : hex s = hex t) : s = t := by
  induction s generalizing t with
  | nil =>
    cases t with
    | nil => rfl
    | cons b t => exact absurd h (by simp [hex, hexByte])
  | cons a s ih =>
    cases t with
    | nil => exact absurd h (by simp [hex, hexByte])
    | cons b t =>
      have hcons : ∀ (c : UInt8) (u : Bytes), hex (c :: u) = hexByte c ++ hex u :=
        fun _ _ => List.flatMap_cons
      rw [hcons, hcons] at h
      obtain ⟨hfirst, hrest⟩ := List.append_inj h rfl
      rw [hexByte_inj hfirst, ih hrest]

end Bytes

/-! ## §5 Digests -/

/-- **What a digest covers.**  Two lists of pages have the same stream exactly when their paths and
    contents have the same pieces between zero bytes.  If no path and no content has a zero byte,
    different lists have different streams, and equal digests of them are a collision of the hash.
    Beyond that the stream is ambiguous: only the empty list and a single page without zero bytes have
    a stream that no other list has. -/
theorem digest_unambiguous_iff (ps : List Page) :
    (∀ qs, digestStream ps = digestStream qs ↔ pieces ps = pieces qs) ∧
    (∀ qs, (∀ p ∈ ps, p.ZeroFree) → (∀ q ∈ qs, q.ZeroFree) → ps ≠ qs →
      digestStream ps ≠ digestStream qs ∧
        (digest ps = digest qs →
          Sha256.hash (digestStream ps) = Sha256.hash (digestStream qs))) ∧
    ((∀ qs, digestStream qs = digestStream ps → qs = ps) ↔
      ps.length ≤ 1 ∧ ∀ p ∈ ps, p.ZeroFree) := by
  refine ⟨fun qs => digestStream_eq_iff, ?_, ?_, ?_⟩
  · intro qs hps hqs hne
    refine ⟨fun hstream => ?_, fun hdigest => Bytes.hex_inj hdigest⟩
    exact hne (eq_of_pieces_eq hps hqs (digestStream_eq_iff.1 hstream))
  · intro hunique
    cases ps with
    | nil => exact ⟨Nat.zero_le 1, by simp⟩
    | cons p ps =>
      -- a single page has the stream of the list, so the list is that page
      obtain ⟨q, hq⟩ := exists_single_page p ps
      obtain ⟨rfl, rfl⟩ : q = p ∧ [] = ps := List.cons.inj (hunique [q] hq)
      refine ⟨Nat.le_refl 1, fun p' hp' => ?_⟩
      obtain rfl := List.mem_singleton.1 hp'
      by_contra hzero
      obtain ⟨q, hne, hq⟩ := exists_other_page hzero
      exact hne (List.singleton_inj.1 (hunique [q] hq))
  · rintro ⟨hlength, hzero⟩ qs h
    cases ps with
    | nil =>
      cases qs with
      | nil => rfl
      | cons q qs => exact absurd h (by simp [digestStream])
    | cons p ps =>
      obtain rfl : ps = [] := List.eq_nil_of_length_eq_zero (by simpa using hlength)
      exact eq_singleton_of_digestStream (hzero p List.mem_cons_self) h

/-- A byte that moves from a content to its path changes the stream. -/
theorem digest_of_moved_boundary :
    let ps : List Page := [⟨bytes "a", bytes "bc"⟩, ⟨bytes "d", []⟩]
    let qs : List Page := [⟨bytes "ab", bytes "c"⟩, ⟨bytes "d", []⟩]
    (∀ p ∈ ps, p.ZeroFree) ∧ (∀ q ∈ qs, q.ZeroFree) ∧ ps ≠ qs ∧
      digestStream ps ≠ digestStream qs := by
  intro ps qs
  have hps : ∀ p ∈ ps, p.ZeroFree := by decide
  have hqs : ∀ q ∈ qs, q.ZeroFree := by decide
  have hne : ps ≠ qs := by decide
  exact ⟨hps, hqs, hne, ((digest_unambiguous_iff ps).2.1 qs hps hqs hne).1⟩

/-- Two sites with the same paths and other assets, and one digest. -/
theorem assets_with_zeros_share_digest :
    let index : Page := ⟨indexPath, bytes "i"⟩
    let ps : List Page := [index, ⟨bytes "a", bytes "x\x00b\x00y"⟩, ⟨bytes "b", bytes "z"⟩]
    let qs : List Page := [index, ⟨bytes "a", bytes "x"⟩, ⟨bytes "b", bytes "y\x00b\x00z"⟩]
    ps ≠ qs ∧ ps.map Page.path = qs.map Page.path ∧ digestStream ps = digestStream qs ∧
      digest ps = digest qs := by
  intro index ps qs
  have hstream : digestStream ps = digestStream qs := by decide
  exact ⟨by decide, by decide, hstream, congrArg (fun s => Bytes.hex (Sha256.hash s)) hstream⟩

end DocPages
