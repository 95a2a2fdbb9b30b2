import Mathlib.Data.List.TakeWhile
import UsageWatch.Proofs.Numeral
import UsageWatch.Proofs.TextLines
import UsageWatch.Server.Run
/-!
# Requests that are events

An event is asked for by a `POST` to its path, with parameters in the query. Parameters
of characters that stand for themselves (`IsPlain`) are read as they are, so a user switch
between any two users can be asked for, and a custom event with any plain list of packages.
-/

namespace UsageWatch

def Incident.event? : Incident → Option Event
  | .tick now => some ⟨.periodic, now, .normal⟩
  | .request method uri now =>
    if method = "POST" then
      (Server.request? (.parse uri)).join.map fun (target, state) => ⟨target, now, state⟩
    else none

/-! ## Plain characters -/

theorem toList_byteArray (bs : ByteArray) : bs.toList = bs.data.toList := by
  have hloop : ∀ i r, ByteArray.toList.loop bs i r = r.reverse ++ bs.data.toList.drop i := by
    intro i r
    fun_induction ByteArray.toList.loop bs i r with
    | case1 i r hlt ih =>
      have hget : bs.get! i = bs.data[i] := getElem!_pos bs.data i hlt
      rw [ih, hget, List.drop_eq_getElem_cons (i := i) hlt]
      simp
    | case2 i r hge =>
      have hle : bs.data.toList.length ≤ i := Nat.le_of_not_lt hge
      rw [List.drop_eq_nil_of_le hle, List.append_nil]
  rw [ByteArray.toList, hloop]
  rfl

namespace Query

/-- A character that stands for itself in a query. -/
def IsPlain (c : Char) : Prop := c.toNat < 128 ∧ c ≠ '#' ∧ c ≠ '%' ∧ c ≠ '&' ∧ c ≠ '+'

theorem isPlain_of_isDigit {c : Char} (h : c.isDigit = true) : IsPlain c := by
  obtain ⟨hlow, hhigh⟩ := Text.digit_bounds h
  have hne : ∀ d : Char, d.isDigit = false → c ≠ d := fun d hd heq => by
    rw [heq, hd] at h
    cases h
  exact ⟨by omega, hne _ (by decide), hne _ (by decide), hne _ (by decide), hne _ (by decide)⟩

theorem toList_toUTF8 {s : List Char} (h : ∀ c ∈ s, c.toNat < 128) :
    (String.ofList s).toUTF8.toList = s.map fun c => UInt8.ofNat c.toNat := by
  rw [toList_byteArray, String.toUTF8, String.toByteArray_ofList]
  induction s with
  | nil => rfl
  | cons c s ih =>
    rw [List.forall_mem_cons] at h
    have hc : c.val.toNat ≤ 127 := Nat.le_of_lt_succ h.1
    have hencode : String.utf8EncodeChar c = [UInt8.ofNat c.toNat] := if_pos hc
    have hfirst : [c].utf8Encode.data.toList = [UInt8.ofNat c.toNat] := by
      rw [List.utf8Encode, List.flatMap_singleton, hencode]
      rfl
    rw [List.utf8Encode_cons, ByteArray.data_append, Array.toList_append, ih h.2, hfirst]
    rfl

theorem decodeLossy_unescape {s : List Char} (h : ∀ c ∈ s, IsPlain c) :
    Text.decodeLossy (unescape (s.map fun c => UInt8.ofNat c.toNat)) = s := by
  induction s with
  | nil => rfl
  | cons c s ih =>
    rw [List.forall_mem_cons] at h
    obtain ⟨⟨hascii, -, hpercent, -, hplus⟩, hs⟩ := h
    have hbyte : (UInt8.ofNat c.toNat).toNat = c.toNat := UInt8.toNat_ofNat_of_lt' (by
      rw [UInt8.size]
      omega)
    have hne : ∀ d : Char, c ≠ d → d.toNat < 128 → UInt8.ofNat c.toNat ≠ UInt8.ofNat d.toNat := by
      intro d hd hlt heq
      have hnat := congrArg UInt8.toNat heq
      rw [hbyte, UInt8.toNat_ofNat_of_lt' (by rw [UInt8.size]; omega)] at hnat
      exact hd (Char.toNat_inj.mp hnat)
    have hcons : ∀ bs, unescape (UInt8.ofNat c.toNat :: bs) = UInt8.ofNat c.toNat :: unescape bs := by
      intro bs
      rw [unescape]
      · exact hne '+' hplus (by decide)
      · exact fun _ _ _ heq => absurd heq (hne '%' hpercent (by decide))
    have hlt : UInt8.ofNat c.toNat < 0x80 := by
      rw [UInt8.lt_iff_toNat_lt, hbyte]
      exact hascii
    rw [List.map_cons, hcons, Text.decodeLossy.eq_def]
    simp only [hlt, if_true, hbyte, Char.ofNat_toNat, ih hs]

theorem component_plain {s : List Char} (h : ∀ c ∈ s, IsPlain c) : component s = String.ofList s := by
  rw [component, toList_toUTF8 fun c hc => (h c hc).1, decodeLossy_unescape h]

/-! ## Parameters -/

def text (parameters : List (String × String)) : String :=
  "&".intercalate (parameters.map fun p => p.1 ++ "=" ++ p.2)

structure IsPair (p : String × String) : Prop where
  name : ∀ c ∈ p.1.toList, IsPlain c ∧ c ≠ '='
  value : ∀ c ∈ p.2.toList, IsPlain c

theorem IsPair.not_mem {p : String × String} (h : IsPair p) {c : Char} (hc : ¬ IsPlain c) (heq : c ≠ '=') :
    c ∉ (p.1 ++ "=" ++ p.2).toList := by
  have hname : c ∉ p.1.toList := fun hmem => hc (h.name c hmem).1
  have hvalue : c ∉ p.2.toList := fun hmem => hc (h.value c hmem)
  simp [hname, hvalue, heq]

theorem fields_text {parameters : List (String × String)} (hne : parameters ≠ [])
    (h : ∀ p ∈ parameters, IsPair p) : Text.fields '&' (text parameters).toList =
      parameters.map fun p => (p.1 ++ "=" ++ p.2).toList := by
  have htext : (text parameters).toList =
      ['&'].intercalate (parameters.map fun p => (p.1 ++ "=" ++ p.2).toList) := by
    simp [text, String.toList_intercalate, Function.comp_def]
  rw [htext]
  refine Text.fields_intercalate (by simpa using hne) fun piece hpiece => ?_
  obtain ⟨p, hp, rfl⟩ := List.mem_map.mp hpiece
  exact (h p hp).not_mem (by simp [IsPlain]) (by decide)

theorem pairs_text {parameters : List (String × String)} (h : ∀ p ∈ parameters, IsPair p) :
    pairs (text parameters) = parameters := by
  by_cases hne : parameters = []
  · rw [hne]
    rfl
  · have hpieces : (parameters.map fun p => (p.1 ++ "=" ++ p.2).toList).filter (· ≠ []) =
        parameters.map fun p => (p.1 ++ "=" ++ p.2).toList := by
      refine List.filter_eq_self.mpr fun piece hpiece => ?_
      obtain ⟨p, -, rfl⟩ := List.mem_map.mp hpiece
      simp
    rw [pairs, fields_text hne h, hpieces, List.map_map]
    refine (List.map_congr_left fun p hp => ?_).trans (List.map_id _)
    have hequals : '=' ∉ p.1.toList := fun hmem => ((h p hp).name _ hmem).2 rfl
    have hcut : Text.cut? '=' (p.1 ++ "=" ++ p.2).toList = some (p.1.toList, p.2.toList) := by
      simpa using Text.cut?_of_not_mem hequals p.2.toList
    have hname := component_plain fun c hc => ((h p hp).name c hc).1
    have hvalue := component_plain (h p hp).value
    rw [Function.comp_apply, hcut]
    simp only [hname, hvalue, String.ofList_toList]
    rfl

theorem hash_not_mem_text {parameters : List (String × String)} (h : ∀ p ∈ parameters, IsPair p) :
    '#' ∉ (text parameters).toList := by
  by_cases hne : parameters = []
  · rw [hne]
    exact List.not_mem_nil
  · intro hmem
    have hpieces := Text.flatMap_fields '&' (text parameters).toList
    rw [fields_text hne h] at hpieces
    have hmem : '#' ∈ (text parameters).toList ++ ['&'] := List.mem_append_left _ hmem
    rw [← hpieces, List.mem_flatMap] at hmem
    obtain ⟨piece, hpiece, hmem⟩ := hmem
    obtain ⟨p, hp, rfl⟩ := List.mem_map.mp hpiece
    have hnot := (h p hp).not_mem (c := '#') (by simp [IsPlain]) (by decide)
    rcases List.mem_append.mp hmem with hmem | hmem
    · exact hnot hmem
    · exact absurd hmem (by decide)

theorem parameters?_text (names : List String) {parameters : List (String × String)}
    (h : ∀ p ∈ parameters, IsPair p) :
    parameters? names (some (text parameters)) = Layout.assign? (names.map fun name => [name])
      (.named (parameters.map fun p => (some p.1, p.2))) := by
  rw [parameters?, Option.getD_some, pairs_text h]

theorem userSwitch?_text {first second : String}
    (h : ∀ p ∈ [("from", first), ("to", second)], IsPair p) {origin target : Count}
    (horigin : Text.readCount first.toList = .ok origin)
    (htarget : Text.readCount second.toList = .ok target) :
    userSwitch? (some (text [("from", first), ("to", second)])) =
      some (.userSwitch origin target) := by
  rw [userSwitch?, parameters?_text _ h]
  simp [Layout.assign?, Layout.given, Layout.unique?, horigin, htarget, Except.toOption]

theorem ofName?_name (state : SystemState) : SystemState.ofName? state.name = some state := by
  cases state <;> decide

theorem custom?_text {packages : String} {state : SystemState}
    (h : ∀ p ∈ [("packages", packages), ("state", state.name)], IsPair p) :
    custom? (some (text [("packages", packages), ("state", state.name)])) =
      some (.custom (.parse packages), state) := by
  rw [custom?, parameters?_text _ h]
  simp [Layout.assign?, Layout.given, Layout.unique?, ofName?_name]

end Query

/-! ## Paths -/

theorem RequestTarget.parse_append (path : String) {query : String} (hslash : path.toList.head? = some '/')
    (hpath : '#' ∉ path.toList) (hmark : '?' ∉ path.toList) (hquery : '#' ∉ query.toList) :
    parse (path ++ "?" ++ query) = ⟨path, some query⟩ := by
  have htext : (path ++ "?" ++ query).toList = path.toList ++ '?' :: query.toList := by simp
  have hall : ∀ c ∈ path.toList ++ '?' :: query.toList, decide (c ≠ '#') = true := by
    intro c hc
    rw [decide_eq_true_eq]
    rintro rfl
    simp [hpath, hquery] at hc
  have hauthority : dropAuthority (path.toList ++ '?' :: query.toList) =
      path.toList ++ '?' :: query.toList := by
    cases hcs : path.toList with
    | nil =>
      rw [hcs] at hslash
      cases hslash
    | cons c cs =>
      rw [hcs] at hslash
      cases hslash
      rfl
  rw [parse, htext, List.takeWhile_eq_self_iff.mpr hall, hauthority]
  simp only [Text.cut?_of_not_mem hmark, String.ofList_toList]

/-! ## Events -/

namespace Incident

variable (now : Timestamp)

theorem event?_wakeUp {uri : String} (h : (RequestTarget.parse uri).path = "/collect/wake-up") :
    (request "POST" uri now).event? = some ⟨.wakeUp, now, .normal⟩ := by
  simp [event?, Server.request?, h]

theorem event?_userSwitch (origin target : Count) :
    (request "POST" ("/collect/user-switch" ++ "?" ++ Query.text
      [("from", toString origin.toNat), ("to", toString target.toNat)]) now).event? =
        some ⟨.userSwitch origin target, now, .normal⟩ := by
  have hplain : ∀ n : Count, ∀ c ∈ (toString n.toNat).toList, Query.IsPlain c := by
    intro n c hc
    rw [Nat.toString_eq_repr, Nat.toList_repr] at hc
    exact Query.isPlain_of_isDigit (Text.isDigit_of_mem_toDigits hc)
  have hread : ∀ n : Count, Text.readCount (toString n.toNat).toList = .ok n := by
    intro n
    rw [Text.readCount_eq_ok_iff, Nat.toString_eq_repr, Nat.toList_repr]
    exact Text.isNumeral_toDigits n.toNat
  have hpairs : ∀ p ∈ [("from", toString origin.toNat), ("to", toString target.toNat)],
      Query.IsPair p := by
    rw [List.forall_mem_cons, List.forall_mem_singleton]
    exact ⟨⟨by simp [Query.IsPlain], hplain origin⟩, ⟨by simp [Query.IsPlain], hplain target⟩⟩
  have hparse := RequestTarget.parse_append "/collect/user-switch" (by simp) (by simp) (by simp)
    (Query.hash_not_mem_text hpairs)
  rw [event?, hparse, Server.request?]
  simp only [if_true, Query.userSwitch?_text hpairs (hread origin) (hread target)]
  rfl

theorem event?_custom {packages : String} (h : ∀ c ∈ packages.toList, Query.IsPlain c)
    (state : SystemState) :
    (request "POST" ("/collect/custom" ++ "?" ++ Query.text
      [("packages", packages), ("state", state.name)]) now).event? =
        some ⟨.custom (.parse packages), now, state⟩ := by
  have hpairs : ∀ p ∈ [("packages", packages), ("state", state.name)], Query.IsPair p := by
    rw [List.forall_mem_cons, List.forall_mem_singleton]
    refine ⟨⟨by simp [Query.IsPlain], h⟩, ⟨by simp [Query.IsPlain], ?_⟩⟩
    cases state <;> simp [Query.IsPlain, SystemState.name]
  have hparse := RequestTarget.parse_append "/collect/custom" (by simp) (by simp) (by simp)
    (Query.hash_not_mem_text hpairs)
  rw [event?, hparse, Server.request?]
  simp only [if_true, Query.custom?_text hpairs]
  rfl

end Incident

end UsageWatch
