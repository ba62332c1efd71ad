import ServiceClient.Proofs.Naming.Letters
import ServiceClient.Proofs.Text.Strip
import ServiceClient.Verb

namespace ServiceClient.Verb

open Text Naming

def InAnyCase (word : String) (cs : List Char) : Prop :=
  cs.map Char.toLower = word.toList.map Char.toLower

instance (word : String) : DecidablePred (InAnyCase word) :=
  fun _ => inferInstanceAs (Decidable (_ = _))

def IsSpelling (verb : Verb) (cs : List Char) : Prop :=
  ∃ http name ending, cs = http ++ name ++ ending ∧
    (http = [] ∨ InAnyCase "http" http) ∧ InAnyCase verb.name name ∧
    (ending = [] ∨ ending = "Attribute".toList)

def Annotates (text : String) (verb : Verb) : Prop :=
  ∃ before cs after, text.toList = before ++ cs ++ after ∧ (∀ c ∈ before, isBlank c = true) ∧
    (∀ c ∈ after, isBlank c = true) ∧ verb.IsSpelling cs

section Case

variable {word : String} {cs : List Char}

theorem InAnyCase.length_eq (h : InAnyCase word cs) : cs.length = word.toList.length := by
  simpa using congrArg List.length h

theorem InAnyCase.isAlpha (h : InAnyCase word cs) (letters : word.toList.all Char.isAlpha = true) :
    ∀ c ∈ cs, c.isAlpha = true := by
  intro c hc
  have lower : c.toLower ∈ word.toList.map Char.toLower := h ▸ List.mem_map_of_mem hc
  obtain ⟨d, hd, same⟩ := List.mem_map.1 lower
  rw [← Char.isAlpha_toLower_eq_isAlpha, ← same, Char.isAlpha_toLower_eq_isAlpha]
  exact List.all_eq_true.1 letters d hd

theorem isAlpha_name (verb : Verb) : verb.name.toList.all Char.isAlpha = true := by
  cases verb <;> decide

theorem map_toUpper_name (verb : Verb) : verb.name.toList.map Char.toUpper = verb.name.toList := by
  cases verb <;> decide

theorem upper_eq_name_iff {verb : Verb} (seven : ∀ c ∈ cs, c.toNat < 0x80) :
    upper (.ofList cs) = verb.name ↔ InAnyCase verb.name cs := by
  have capitals : (upper (.ofList cs)).toList = cs.map Char.toUpper := by
    rw [toList_upper, String.toList_ofList, List.map_eq_flatMap]
    exact List.flatMap_congr fun c hc => upperChar_of_lt (seven c hc)
  rw [← String.toList_inj, capitals]
  constructor
  · intro same
    rw [InAnyCase, ← same, List.map_map]
    exact List.map_congr_left fun c _ => (Char.toLower_toUpper_eq_toLower c).symm
  · intro same
    have again := congrArg (List.map Char.toUpper) same
    simp only [List.map_map, Function.comp_def, Char.toUpper_toLower_eq_toUpper] at again
    rw [again, map_toUpper_name]

end Case

theorem IsSpelling.isAlpha {verb : Verb} {cs : List Char} (h : verb.IsSpelling cs) :
    ∀ c ∈ cs, c.isAlpha = true := by
  obtain ⟨http, name, ending, rfl, hhttp, hname, hending⟩ := h
  have prefixed : ∀ c ∈ http, c.isAlpha = true := by
    rcases hhttp with rfl | hhttp
    · simp
    · exact hhttp.isAlpha (by decide)
  have suffixed : ∀ c ∈ ending, c.isAlpha = true := by
    rcases hending with rfl | rfl
    · simp
    · exact List.all_eq_true.1 (by decide)
  intro c hc
  rcases List.mem_append.1 hc with hc | hc
  · rcases List.mem_append.1 hc with hc | hc
    · exact prefixed c hc
    · exact hname.isAlpha (isAlpha_name verb) c hc
  · exact suffixed c hc

theorem annotates_iff {text : String} {verb : Verb} :
    Annotates text verb ↔ verb.IsSpelling (strip isBlank text.toList) := by
  constructor
  · rintro ⟨before, cs, after, split, hbefore, hafter, h⟩
    have filled : ∀ c ∈ cs, isBlank c = false := fun c hc =>
      (isSeparator_eq_false_iff.1 (not_isSeparator_of_isAlpha (h.isAlpha c hc))).2.2
    rw [split, strip_append_append hbefore hafter
      (fun c hc => filled c (List.mem_of_mem_head? hc))
      fun c hc => filled c (List.mem_of_mem_getLast? hc)]
    exact h
  · intro h
    obtain ⟨gap, hgap, split⟩ := exists_append_strip isBlank text.toList
    exact ⟨_, _, gap, split, fun c hc => List.mem_takeWhile_imp hc, hgap, h⟩

section Affixes

variable {verb : Verb} {http name : List Char}

theorem exists_dropHttp (cs : List Char) :
    ∃ http, cs = http ++ dropHttp cs ∧ (http = [] ∨ InAnyCase "http" http) := by
  rw [dropHttp]
  split
  · next begins => exact ⟨cs.take 4, (List.take_append_drop 4 cs).symm, .inr begins.1⟩
  · exact ⟨[], rfl, .inl rfl⟩

theorem dropHttp_append (hhttp : http = [] ∨ InAnyCase "http" http)
    (hname : InAnyCase verb.name name) : dropHttp (http ++ name) = name := by
  have short : 0 < name.length := by
    rw [hname.length_eq]
    cases verb <;> decide
  rcases hhttp with rfl | hhttp
  · -- No name of a verb begins with `http`.
    have other : (name.take 4).map Char.toLower ≠ ['h', 't', 't', 'p'] := by
      rw [List.map_take, hname]
      cases verb <;> decide
    rw [List.nil_append, dropHttp, if_neg fun begins => other begins.1]
  · have four : http.length = 4 := hhttp.length_eq
    rw [dropHttp, if_pos, ← four, List.drop_left]
    constructor
    · rw [← four, List.take_left]
      exact hhttp
    · rw [List.length_append]
      omega

theorem not_attribute_suffix (hhttp : http = [] ∨ InAnyCase "http" http)
    (hname : InAnyCase verb.name name) : ¬"Attribute".toList <:+ http ++ name := by
  intro ends
  have lower := ends.map Char.toLower
  rw [List.map_append, hname] at lower
  revert lower
  rcases hhttp with rfl | hhttp
  · cases verb <;> decide
  · rw [hhttp]
    cases verb <;> decide

theorem normalized_of_isSpelling {text : String} (h : verb.IsSpelling (strip isBlank text.toList)) :
    ∃ name, InAnyCase verb.name name ∧ normalized text = upper (.ofList name) := by
  obtain ⟨http, name, ending, split, hhttp, hname, hending⟩ := h
  have dropped :
      (dropSuffix? "Attribute" (trim text)).getD (trim text) = .ofList (http ++ name) := by
    rw [trim, split]
    rcases hending with rfl | rfl
    · have characters : (String.ofList (http ++ name)).toList = http ++ name :=
        String.toList_ofList
      rw [List.append_nil, dropSuffix?_eq_none, Option.getD_none]
      rw [characters]
      exact not_attribute_suffix hhttp hname
    · rw [String.ofList_append, String.ofList_toList, dropSuffix?_append, Option.getD_some]
  refine ⟨name, hname, ?_⟩
  simp only [normalized, dropped, String.toList_ofList, dropHttp_append hhttp hname]

theorem isSpelling_of_normalized {text : String} (seven : IsSevenBit text)
    (h : normalized text = verb.name) : verb.IsSpelling (strip isBlank text.toList) := by
  obtain ⟨ending, whole, hending⟩ := exists_dropSuffix "Attribute" (trim text)
  simp only [normalized] at h
  generalize (dropSuffix? "Attribute" (trim text)).getD (trim text) = rest at whole h
  obtain ⟨http, split, hhttp⟩ := exists_dropHttp rest.toList
  generalize dropHttp rest.toList = name at split h
  have core : strip isBlank text.toList = http ++ name ++ ending.toList := by
    rw [← split, ← String.toList_append, ← whole, trim, String.toList_ofList]
  have inside : ∀ c ∈ name, c.toNat < 0x80 := by
    intro c hc
    apply seven c
    apply (strip_sublist isBlank text.toList).subset
    simp [core, hc]
  refine ⟨http, name, ending.toList, core, hhttp, (upper_eq_name_iff inside).1 h, ?_⟩
  rcases hending with rfl | rfl
  · exact .inl rfl
  · exact .inr rfl

end Affixes

theorem ofName?_eq_some_iff {text : String} {verb : Verb} :
    ofName? text = some verb ↔ text = verb.name := by
  constructor
  · intro found
    have named := List.find?_some (p := fun v : Verb => decide (v.name = text)) found
    exact (of_decide_eq_true named).symm
  · rintro rfl
    cases verb <;> decide

theorem parse_eq_ok_iff {text : String} {verb : Verb} :
    parse text = .ok verb ↔ normalized text = verb.name := by
  rw [← ofName?_eq_some_iff]
  unfold parse
  generalize ofName? (normalized text) = found
  cases found with
  | none => simp
  | some verb => simp

theorem parse_eq_error_iff {text : String} :
    parse text = .error ⟨text⟩ ↔ ∀ verb, parse text ≠ .ok verb := by
  unfold parse
  generalize ofName? (normalized text) = found
  cases found with
  | none => simp
  | some verb => simp

/-- A text of seven bits is read as the verb that it annotates, and refused where it annotates
none. -/
theorem parse_annotated {text : String} (seven : IsSevenBit text) :
    (∀ verb, parse text = .ok verb ↔ Annotates text verb) ∧
      (parse text = .error ⟨text⟩ ↔ ∀ verb, ¬Annotates text verb) := by
  have reads (verb : Verb) : parse text = .ok verb ↔ Annotates text verb := by
    rw [parse_eq_ok_iff, annotates_iff]
    constructor
    · exact isSpelling_of_normalized seven
    · intro h
      obtain ⟨name, hname, same⟩ := normalized_of_isSpelling h
      have letters : ∀ c ∈ name, c.toNat < 0x80 := by
        intro c hc
        have letter := isAlpha_iff.1 (hname.isAlpha (isAlpha_name verb) c hc)
        omega
      rw [same, (upper_eq_name_iff letters).2 hname]
  exact ⟨reads, parse_eq_error_iff.trans (forall_congr' fun verb => not_congr (reads verb))⟩

theorem parse_annotated_delete :
    parse "\t hTTpDeleteAttribute\n" = .ok .delete ∧ ∀ verb, ¬Annotates "HttpHttpGet" verb := by
  have seven : IsSevenBit "\t hTTpDeleteAttribute\n" := by decide +kernel
  have seven' : IsSevenBit "HttpHttpGet" := by decide +kernel
  have twice : parse "HttpHttpGet" = .error ⟨"HttpHttpGet"⟩ := by decide +kernel
  refine ⟨((parse_annotated seven).1 .delete).2 ?_, (parse_annotated seven').2.1 twice⟩
  refine ⟨['\t', ' '], "hTTpDeleteAttribute".toList, ['\n'], rfl, List.all_eq_true.1 (by decide),
    List.all_eq_true.1 (by decide), ?_⟩
  exact ⟨"hTTp".toList, "Delete".toList, "Attribute".toList, rfl, .inr (by decide), by decide,
    .inr rfl⟩

end ServiceClient.Verb
