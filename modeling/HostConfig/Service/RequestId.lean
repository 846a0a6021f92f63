import Mathlib.Algebra.Group.Int.Defs
import HostConfig.Lib.Hexadecimal
import HostConfig.Service.Middleware

/-!
# `Service.RequestId` — the request id a response carries

The client may send an id of its own, as bytes in a header. `_coerce_request_id` takes it if `uuid.UUID`
does, and mints one otherwise; either way the id is written anew, in the one canonical form.

`requestId_of_response`: whatever is sent, the response has one header of this name and a canonical id in
it. An id that spells a UUID in one of the usual ways stays that UUID, and a canonical one comes through any
number of services.
-/

namespace HostConfig
namespace Service

open Models Hexadecimal

/-! ## UUIDs -/

abbrev Uuid := Fin (2 ^ 128)

/-- `text.replace(old, "")`, where `skip` more characters belong to an occurrence. -/
def removeFrom (old : List Char) : Nat → List Char → List Char
  | _,        []      => []
  | skip + 1, _ :: cs => removeFrom old skip cs
  | 0,        c :: cs =>
      if old.isPrefixOf (c :: cs) then removeFrom old (old.length - 1) cs else c :: removeFrom old 0 cs

/-- `text.replace(old, "")` -/
def remove (old : String) (cs : List Char) : List Char := removeFrom old.toList 0 cs

/-- `text.strip(chars)` -/
def stripChars (chars : List Char) (cs : List Char) : List Char :=
  ((cs.dropWhile (chars.contains ·)).reverse.dropWhile (chars.contains ·)).reverse

/-- `uuid.UUID(hex)`; `none` where it raises a `ValueError`. -/
def Uuid.ofHex (hex : List Char) : Option Uuid :=
  let hex := remove "uuid:" (remove "urn:" hex)
  let hex := (stripChars ['{', '}'] hex).filter (· ≠ '-')
  if hex.length ≠ 32 then none
  else (toInt hex).bind fun int =>
    if h : 0 ≤ int ∧ int < 2 ^ 128 then some ⟨int.toNat, by omega⟩ else none

/-- `str(uuid)` -/
def Uuid.str (uuid : Uuid) : String :=
  let hex := padded 32 uuid
  String.ofList (hex.take 8 ++ '-' :: ((hex.drop 8).take 4 ++ '-' :: ((hex.drop 12).take 4 ++ '-' ::
    ((hex.drop 16).take 4 ++ '-' :: hex.drop 20))))

/-- `[0-9a-f]{8}-[0-9a-f]{4}-[0-9a-f]{4}-[0-9a-f]{4}-[0-9a-f]{12}` -/
def uuidRe : RegularExpression Char :=
  let digits n := Regex.times n (Regex.oneOf hexDigits)
  digits 8 * (.char '-' * (digits 4 * (.char '-' * (digits 4 * (.char '-' * (digits 4 * (.char '-' * digits 12)))))))

/-! ## The header -/

/-- `value.decode("latin-1")` -/
def decoded (bytes : List UInt8) : List Char := bytes.map fun byte => Char.ofNat byte.toNat

/-- `value.encode("latin-1")`, of a text it can encode. -/
def encoded (cs : List Char) : List UInt8 := cs.map fun c => UInt8.ofNat c.toNat

/-- `_coerce_request_id`, of the header as it was sent; `minted` is what `uuid4` gives. -/
def coerceRequestId (raw : Option (List UInt8)) (minted : Uuid) : String :=
  match raw with
  | none       => minted.str
  | some bytes =>
      if bytes = [] then minted.str
      else ((Uuid.ofHex (decoded bytes)).getD minted).str

/-- A text spells a UUID: its digits in either case, with hyphens anywhere, in any braces and after
    `urn:` and `uuid:`. -/
def Spells (uuid : Uuid) (text : List Char) : Prop :=
  ∃ scheme ∈ ["", "urn:", "uuid:", "urn:uuid:"], ∃ opened closed body digits,
    text = scheme.toList ++ (List.replicate opened '{' ++ (body ++ List.replicate closed '}')) ∧
      (body.filter (· ≠ '-')).mapM digitValue = some digits ∧ digits.length = 32 ∧ value 0 digits = uuid

/-! ## What is spelled is read -/

section

variable {uuid : Uuid} {text cs : List Char}

theorem removeFrom_of_notMem {c : Char} {old : List Char} (h : c ∉ cs) : removeFrom (c :: old) 0 cs = cs := by
  induction cs with
  | nil => rfl
  | cons c' cs ih =>
    rw [List.mem_cons, not_or] at h
    obtain ⟨hne, hcs⟩ := h
    have hnot : ¬ (c :: old).isPrefixOf (c' :: cs) = true := by simp [List.isPrefixOf, hne]
    rw [removeFrom, if_neg hnot, ih hcs]

/-- Both schemes go, from the front of a text without a `u`. -/
theorem remove_scheme {scheme : String} (hscheme : scheme ∈ ["", "urn:", "uuid:", "urn:uuid:"])
    (h : 'u' ∉ cs) : remove "uuid:" (remove "urn:" (scheme.toList ++ cs)) = cs := by
  have hurn : removeFrom ['u', 'r', 'n', ':'] 0 cs = cs := removeFrom_of_notMem h
  have huuid : removeFrom ['u', 'u', 'i', 'd', ':'] 0 cs = cs := removeFrom_of_notMem h
  show removeFrom ['u', 'u', 'i', 'd', ':'] 0 (removeFrom ['u', 'r', 'n', ':'] 0 (scheme.toList ++ cs)) = cs
  simp only [List.mem_cons, List.not_mem_nil, or_false] at hscheme
  rcases hscheme with rfl | rfl | rfl | rfl
  all_goals simp [removeFrom, List.isPrefixOf, hurn, huuid]

theorem stripChars_of {chars before after : List Char} (hbefore : ∀ c ∈ before, c ∈ chars)
    (hcs : ∀ c ∈ cs, c ∉ chars) (hafter : ∀ c ∈ after, c ∈ chars) (hne : cs ≠ []) :
    stripChars chars (before ++ (cs ++ after)) = cs := by
  have hdrop : ∀ {cs after : List Char}, (∀ c ∈ cs, c ∉ chars) → cs ≠ [] →
      (cs ++ after).dropWhile (chars.contains ·) = cs ++ after := by
    intro cs after hcs hne
    cases cs with
    | nil => exact absurd rfl hne
    | cons c cs =>
      have hc : ¬ chars.contains c = true := by simp [hcs c List.mem_cons_self]
      exact List.dropWhile_cons_of_neg hc
  unfold stripChars
  rw [List.dropWhile_append_of_pos (by simpa using hbefore), hdrop hcs hne, List.reverse_append,
    List.dropWhile_append_of_pos (by simpa using hafter)]
  have hself : (cs.reverse ++ []).dropWhile (chars.contains ·) = _ :=
    hdrop (by simpa using hcs) (by simpa using hne)
  rw [List.append_nil] at hself
  rw [hself, List.reverse_reverse]

/-- The digits of a number, in a text of hyphens and digits. -/
theorem mem_body {body : List Char} {digits : List Nat}
    (h : (body.filter (· ≠ '-')).mapM digitValue = some digits)
    {c : Char} (hc : c ∈ body) : c = '-' ∨ ∃ d, digitValue c = some d := by
  by_cases hhyphen : c = '-'
  · exact .inl hhyphen
  · have hmem : c ∈ body.filter (· ≠ '-') := List.mem_filter.mpr ⟨hc, by simpa using hhyphen⟩
    obtain ⟨d, -, hd⟩ := Traverse.exists_of_mem_left (Traverse.forall₂_of_mapM_eq_some h) c hmem
    exact .inr ⟨d, hd⟩

/-- **What spells a UUID is read as it.** -/
theorem ofHex_of_spells (h : Spells uuid text) : Uuid.ofHex text = some uuid := by
  obtain ⟨scheme, hscheme, opened, closed, body, digits, rfl, hdigits, hlength, hvalue⟩ := h
  have hother : ∀ c ∈ body, c ≠ 'u' ∧ c ∉ ['{', '}'] := by
    intro c hc
    rcases mem_body hdigits hc with rfl | ⟨d, hd⟩
    · decide
    · have hnone : ∀ c ∈ ['u', '{', '}'], digitValue c = none := by simp [digitValue]
      have hnot : c ∉ ['u', '{', '}'] := by
        intro hc
        rw [hnone c hc] at hd
        cases hd
      simpa using hnot
  have hbody : body ≠ [] := by
    rintro rfl
    obtain rfl : [] = digits := Option.some.inj hdigits
    cases hlength
  have hu : 'u' ∉ List.replicate opened '{' ++ (body ++ List.replicate closed '}') := by
    simp only [List.mem_append, List.mem_replicate, not_or]
    refine ⟨by simp, ?_, by simp⟩
    intro hmem
    exact (hother 'u' hmem).1 rfl
  have hstrip : stripChars ['{', '}'] (List.replicate opened '{' ++ (body ++ List.replicate closed '}')) =
      body := by
    apply stripChars_of
    · intro c hc
      simp [List.eq_of_mem_replicate hc]
    · exact fun c hc => (hother c hc).2
    · intro c hc
      simp [List.eq_of_mem_replicate hc]
    · exact hbody
  have hcount : (body.filter (· ≠ '-')).length = 32 := by
    rw [← hlength]
    exact (Traverse.forall₂_of_mapM_eq_some hdigits).length_eq
  have hne : body.filter (· ≠ '-') ≠ [] := by
    intro hnil
    rw [hnil] at hcount
    cases hcount
  have hlt := uuid.isLt
  unfold Uuid.ofHex
  dsimp only
  rw [remove_scheme hscheme hu, hstrip, if_neg (not_not.mpr hcount), toInt_of_digits hdigits hne,
    Option.bind_some,
    hvalue, dif_pos ⟨by omega, by omega⟩]
  exact congrArg some (Fin.ext (Int.toNat_natCast _))

/-! ## What is written is canonical -/

theorem length_padded_uuid (uuid : Uuid) : (padded 32 uuid).length = 32 :=
  length_padded (by omega) (by have := uuid.isLt; omega)

theorem mem_hexDigits_of_mem_padded {c : Char} {n : Nat} (h : c ∈ padded 32 n) : c ∈ hexDigits := mem_padded h

theorem filter_hyphen (h : ∀ c ∈ cs, c ∈ hexDigits) : cs.filter (· ≠ '-') = cs := by
  apply List.filter_eq_self.mpr
  intro c hc
  have hnot : ∀ c ∈ hexDigits, decide (c ≠ '-') = true := by simp [hexDigits]
  exact hnot c (h c hc)

theorem digits_str (uuid : Uuid) : uuid.str.toList.filter (· ≠ '-') = padded 32 uuid := by
  have hpart : ∀ part : List Char, (∀ c ∈ part, c ∈ padded 32 uuid) → part.filter (· ≠ '-') = part := by
    intro part hpart
    apply filter_hyphen
    intro c hc
    exact mem_hexDigits_of_mem_padded (hpart c hc)
  have htake : ∀ n k, (((padded 32 uuid).drop n).take k).filter
      (· ≠ '-') = ((padded 32 uuid).drop n).take k := by
    intro n k
    apply hpart
    intro c hc
    exact List.mem_of_mem_drop (List.mem_of_mem_take hc)
  have hlast : ((padded 32 uuid).drop 20).filter (· ≠ '-') = (padded 32 uuid).drop 20 := by
    apply hpart
    intro c hc
    exact List.mem_of_mem_drop hc
  have hfirst : ((padded 32 uuid).take 8).filter (· ≠ '-') = (padded 32 uuid).take 8 := htake 0 8
  have hskip : ∀ cs : List Char, ('-' :: cs).filter (· ≠ '-') = cs.filter (· ≠ '-') := by
    intro cs
    rfl
  unfold Uuid.str
  rw [String.toList_ofList, List.filter_append, hskip, List.filter_append, hskip, List.filter_append, hskip,
    List.filter_append, hskip, hfirst, htake, htake, htake, hlast]
  -- the groups are the digits again
  have hgroup : ∀ n k, ((padded 32 uuid).drop n).take k ++
      (padded 32 uuid).drop (n + k) = (padded 32 uuid).drop n := by
    intro n k
    rw [← List.drop_drop, List.take_append_drop]
  rw [hgroup 16 4, hgroup 12 4, hgroup 8 4, List.take_append_drop]

/-- A canonical text spells its UUID. -/
theorem spells_str (uuid : Uuid) : Spells uuid uuid.str.toList := by
  obtain ⟨digits, hdigits, hvalue⟩ := digits_padded 32 uuid
  refine ⟨"", by simp, 0, 0, uuid.str.toList, digits, by simp, ?_, ?_, hvalue⟩
  · rw [digits_str]
    exact hdigits
  · rw [← (Traverse.forall₂_of_mapM_eq_some hdigits).length_eq, length_padded_uuid]

theorem mem_times_hexDigits (h : ∀ c ∈ cs, c ∈ hexDigits) :
    cs ∈ (Regex.times cs.length (Regex.oneOf hexDigits)).matches' := by
  induction cs with
  | nil => exact Set.mem_singleton _
  | cons c cs ih =>
    obtain ⟨hc, hcs⟩ := List.forall_mem_cons.mp h
    exact Language.mem_mul.mpr ⟨[c], Regex.mem_oneOf hc, cs, ih hcs, rfl⟩

theorem uuidRe_str (uuid : Uuid) : uuidRe.rmatch uuid.str.toList = true := by
  have hdigits : ∀ {n : Nat} {cs : List Char}, cs.length = n → (∀ c ∈ cs, c ∈ padded 32 uuid) →
      cs ∈ (Regex.times n (Regex.oneOf hexDigits)).matches' := by
    rintro _ cs rfl hcs
    exact mem_times_hexDigits fun c hc => mem_hexDigits_of_mem_padded (hcs c hc)
  have hgroup : ∀ n, n + 4 ≤ 32 → ((padded 32 uuid).drop n).take 4 ∈
      (Regex.times 4 (Regex.oneOf hexDigits)).matches' := by
    intro n hn
    apply hdigits
    · rw [List.length_take, List.length_drop, length_padded_uuid]
      omega
    · intro c hc
      exact List.mem_of_mem_drop (List.mem_of_mem_take hc)
  have hhyphen : ['-'] ∈ (RegularExpression.char '-').matches' := Set.mem_singleton _
  rw [RegularExpression.rmatch_iff_matches', Uuid.str, String.toList_ofList]
  refine Language.mem_mul.mpr ⟨_, ?_, _, Language.mem_mul.mpr ⟨['-'], hhyphen, _, Language.mem_mul.mpr ⟨_,
    hgroup 8 (by omega), _, Language.mem_mul.mpr ⟨['-'], hhyphen, _,
      Language.mem_mul.mpr ⟨_, hgroup 12 (by omega), _,
    Language.mem_mul.mpr ⟨['-'], hhyphen, _, Language.mem_mul.mpr ⟨_, hgroup 16 (by omega), _,
    Language.mem_mul.mpr ⟨['-'], hhyphen, _, ?_, rfl⟩, rfl⟩, rfl⟩, rfl⟩, rfl⟩, rfl⟩, rfl⟩, rfl⟩
  · apply hdigits
    · rw [List.length_take, length_padded_uuid]
      rfl
    · intro c hc
      exact List.mem_of_mem_take hc
  · apply hdigits
    · rw [List.length_drop, length_padded_uuid]
    · intro c hc
      exact List.mem_of_mem_drop hc

end

/-! ## The id of a response -/

theorem decoded_encoded {cs : List Char} (h : ∀ c ∈ cs, c.toNat < 256) : decoded (encoded cs) = cs := by
  unfold decoded encoded
  rw [List.map_map]
  conv_rhs => rw [← List.map_id cs]
  apply List.map_congr_left
  intro c hc
  have hbyte : (UInt8.ofNat c.toNat).toNat = c.toNat := UInt8.toNat_ofNat_of_lt' (h c hc)
  show Char.ofNat (UInt8.ofNat c.toNat).toNat = c
  rw [hbyte, Char.ofNat_toNat]

theorem coerceRequestId_of_spells {uuid minted : Uuid} {bytes : List UInt8}
    (h : Spells uuid (decoded bytes)) : coerceRequestId (some bytes) minted = uuid.str := by
  have hread := ofHex_of_spells h
  have hne : bytes ≠ [] := by
    rintro rfl
    have hempty : Uuid.ofHex (decoded []) = none := by decide
    rw [hempty] at hread
    cases hread
  unfold coerceRequestId
  dsimp only
  rw [if_neg hne, hread]
  rfl

theorem str_injective {uuid other : Uuid} (h : uuid.str = other.str) : uuid = other := by
  have hread := ofHex_of_spells (spells_str uuid)
  rw [h, ofHex_of_spells (spells_str other)] at hread
  exact (Option.some.inj hread).symm

/-- A canonical id comes through. -/
theorem coerceRequestId_str (uuid minted : Uuid) :
    coerceRequestId (some (encoded uuid.str.toList)) minted = uuid.str := by
  apply coerceRequestId_of_spells
  rw [decoded_encoded]
  · exact spells_str uuid
  · intro c hc
    have hsmall : ∀ c ∈ '-' :: hexDigits, c.toNat < 256 := by simp [hexDigits]
    apply hsmall
    by_cases hhyphen : c = '-'
    · simp [hhyphen]
    · have hmem : c ∈ uuid.str.toList.filter (· ≠ '-') := List.mem_filter.mpr ⟨hc, by simpa using hhyphen⟩
      rw [digits_str] at hmem
      exact List.mem_cons_of_mem _ (mem_hexDigits_of_mem_padded hmem)

theorem coerceRequestId_canonical (raw : Option (List UInt8)) (minted : Uuid) :
    ∃ uuid : Uuid, coerceRequestId raw minted = uuid.str := by
  unfold coerceRequestId
  split
  · exact ⟨minted, rfl⟩
  split
  · exact ⟨minted, rfl⟩
  · exact ⟨_, rfl⟩

/-- The headers of one name. -/
def Headers.named (headers : Headers) (name : String) : Headers := headers.filter fun h => h.1 = name

theorem Headers.named_set_self (headers : Headers) (name value : String) :
    (headers.set name value).named name = [(name, value)] := by
  induction headers with
  | nil => simp [set, named]
  | cons h hs ih =>
    obtain ⟨k, v⟩ := h
    by_cases hk : k = name
    · simp [set, named, hk]
    · have hskip : named ((k, v) :: set hs name value) name = named (set hs name value) name :=
        List.filter_cons_of_neg (by simpa using hk)
      rw [set, if_neg hk, hskip, ih]

theorem Headers.named_set_of_ne (headers : Headers) {name other : String} (value : String)
    (hne : other ≠ name) : (headers.set name value).named other = headers.named other := by
  induction headers with
  | nil => simp [set, named, Ne.symm hne]
  | cons h hs ih =>
    obtain ⟨k, v⟩ := h
    by_cases hk : k = name
    · subst hk
      rw [set, if_pos rfl]
      -- what is removed has another name
      simp only [named, List.filter_cons, Ne.symm hne, decide_false, Bool.false_eq_true, if_false,
        List.filter_filter]
      apply List.filter_congr
      intro h _
      by_cases hother : h.1 = other <;> simp [hother, hne]
    · rw [set, if_neg hk]
      simp only [named, List.filter_cons]
      rw [show List.filter _ (set hs name value) = _ from ih]
      rfl

theorem named_dispatchResponse (start requestId : String) (request : Request) (inner : InnerResponse) :
    (dispatchResponse start requestId request inner).headers.named requestIdHeader =
      [(requestIdHeader, requestId)] := by
  unfold dispatchResponse injectCacheHeaders
  dsimp only
  split
  · exact Headers.named_set_self _ _ _
  split
  · exact Headers.named_set_self _ _ _
  · rw [Headers.named_set_of_ne _ _ (by decide), Headers.named_set_of_ne _ _ (by decide),
      Headers.named_set_of_ne _ _ (by decide)]
    exact Headers.named_set_self _ _ _

/-- **Whatever id the client sends, the response carries one id, and a canonical one**: the UUID the
    client's spells, if it spells one. Any number of further services to which it is sent on, each of which
    would mint its own, keep it. -/
theorem requestId_of_response (start : String) (request : Request) (inner : InnerResponse)
    (raw : Option (List UInt8)) (minted : Uuid) :
    ∃ uuid : Uuid,
      (dispatchResponse start (coerceRequestId raw minted) request inner).headers.named requestIdHeader =
          [(requestIdHeader, uuid.str)] ∧
        uuidRe.rmatch uuid.str.toList = true ∧
        (∀ bytes sent, raw = some bytes → Spells sent (decoded bytes) → uuid = sent) ∧
        ∀ services : List Uuid,
          services.foldl (fun id minted => coerceRequestId (some (encoded id.toList)) minted)
            uuid.str = uuid.str := by
  obtain ⟨uuid, hid⟩ := coerceRequestId_canonical raw minted
  refine ⟨uuid, ?_, uuidRe_str uuid, ?_, ?_⟩
  · rw [hid]
    exact named_dispatchResponse start uuid.str request inner
  · rintro bytes sent rfl hspells
    rw [coerceRequestId_of_spells hspells] at hid
    exact (str_injective hid).symm
  · intro services
    induction services with
    | nil => rfl
    | cons minted services ih =>
      rw [List.foldl_cons, coerceRequestId_str]
      exact ih

example : coerceRequestId (some (encoded "{URN:uuid:0}".toList))
    5 = "00000000-0000-0000-0000-000000000005" := by
  decide +kernel

end Service
end HostConfig
