import FrameTap.Proofs.Frame.Record.Fields

/-!
# How records may be laid out

A record is described by an array of its three values or by an object that has each field once,
in any order and among other members.  `Describes` says this of the value of a JSON text, and the
theorem of this module is `ofJson_reads_described`: what is read from a JSON text is what its
value describes.  So it does not matter how the members are ordered, what else stands among
them and where white space is.

The reader keeps a draft.  `DescribedFrom` is what the members still to come have to add to it,
and each member is one step from a draft to the next (`Takes`).
-/

namespace FrameTap.Record

open Json

variable {t : Text} {v : Value} {m : Member} {ms ms' : List Member} {vs : List Value} {r : Record}
  {d d' : Draft} {s s' u rest : Bytes}

/-! ## What a value describes -/

/-- The values that an object has for a field. -/
def valuesOf (field : Field) (ms : List Member) : List Value :=
  (ms.filter fun m => content? m.1 == some field.name).map Prod.snd

/-- A value that is there once, and that fits. -/
def Described (ms : List Member) (r : Record) (field : Field) : Prop :=
  ∃ v, valuesOf field ms = [v] ∧ Fits v r field

def Describes : Value → Record → Prop
  | .array vs, r => ∃ seq size data, vs = [seq, size, data] ∧
    Fits seq r .seq ∧ Fits size r .size ∧ Fits data r .data
  | .object ms, r => ∀ field, Described ms r field
  | _, _ => False

/-- The names in an object are texts. -/
def KeysDecode : Value → Prop
  | .object ms => ∀ m ∈ ms, (content? m.1).isSome
  | _ => True

/-- The same tree, or one whose members are in another order or among others that have no name
of a field. -/
inductive Rearranged : Value → Value → Prop
  | refl (v : Value) : Rearranged v v
  | permuted {ms ms' : List Member} (perm : ms.Perm ms') : Rearranged (.object ms) (.object ms')
  | added {ms : List Member} {name : List Item} {key : Text} (v : Value)
    (decodes : content? name = some key) (unknown : ∀ field : Field, key ≠ field.name) :
    Rearranged (.object ms) (.object ((name, v) :: ms))
  | symm {v w : Value} (h : Rearranged v w) : Rearranged w v
  | trans {v w x : Value} (first : Rearranged v w) (second : Rearranged w x) : Rearranged v x

/-! ## Members and drafts -/

/-- The draft holds the field as it is in the record. -/
def Holds (d : Draft) (r : Record) : Field → Prop
  | .seq => d.seq = some r.seq
  | .size => d.size = some r.size
  | .data => d.data = some r.data

/-- The field is in the draft and no member has it, or it is left to the members. -/
def DescribedFrom (d : Draft) (ms : List Member) (r : Record) (field : Field) : Prop :=
  (Holds d r field ∧ valuesOf field ms = []) ∨ (d.has field = false ∧ Described ms r field)

/-- What one member does to a draft. -/
inductive Takes (d : Draft) (m : Member) : Draft → Prop
  | known {field : Field} (name : content? m.1 = some field.name) (new : d.has field = false)
    (r : Record) (fits : Fits m.2 r field) : Takes d m (d.put r field)
  | unknown (name : ∀ field : Field, content? m.1 ≠ some field.name) : Takes d m d

theorem valuesOf_cons (field : Field) (m : Member) (ms : List Member) :
    valuesOf field (m :: ms) =
      if content? m.1 = some field.name then m.2 :: valuesOf field ms else valuesOf field ms := by
  rw [valuesOf, List.filter_cons]
  by_cases h : content? m.1 = some field.name
  · rw [if_pos (by rw [h]; exact beq_self_eq_true _), if_pos h]
    rfl
  · rw [if_neg (by simpa using h), if_neg h]
    rfl

theorem ofName?_name (field : Field) : Field.ofName? field.name = some field := by
  cases field <;> rfl

theorem name_injective {field field' : Field} (h : field.name = field'.name) : field = field' := by
  have hread := ofName?_name field
  rw [h, ofName?_name] at hread
  exact (Option.some.inj hread).symm

theorem has_put {field field' : Field} :
    (d.put r field).has field' = (d.has field' || decide (field = field')) := by
  cases field <;> cases field' <;> simp [Draft.put, Draft.has]

theorem holds_put_self (field : Field) : Holds (d.put r field) r field := by
  cases field <;> rfl

theorem holds_put_of_ne {r' : Record} {field field' : Field} (h : field ≠ field') :
    Holds (d.put r' field) r field' ↔ Holds d r field' := by
  cases field <;> cases field' <;> first | exact absurd rfl h | exact Iff.rfl

/-- What fits one record fits another that holds the same. -/
theorem fits_of_holds_put {r' : Record} {field : Field} (h : Holds (d.put r' field) r field) :
    Fits v r field ↔ Fits v r' field := by
  cases field <;> simp only [Holds, Draft.put, Option.some.injEq] at h <;> simp only [Fits, h]

theorem describedFrom_nil_iff {field : Field} : DescribedFrom d [] r field ↔ Holds d r field := by
  constructor
  · rintro (⟨hholds, -⟩ | ⟨-, v, hv, -⟩)
    · exact hholds
    · cases hv
  · exact fun h => .inl ⟨h, rfl⟩

/-- Nothing is in a draft at first. -/
theorem describedFrom_empty_iff {field : Field} :
    DescribedFrom {} ms r field ↔ Described ms r field := by
  constructor
  · rintro (⟨hholds, -⟩ | ⟨-, hdescribed⟩)
    · cases field <;> cases hholds
    · exact hdescribed
  · exact fun h => .inr ⟨by cases field <;> rfl, h⟩

/-- A field that is there cannot be put into a draft that has it already. -/
theorem describedFrom_put_self {r' : Record} {field : Field} :
    DescribedFrom (d.put r' field) ms r field ↔
      Holds (d.put r' field) r field ∧ valuesOf field ms = [] := by
  rw [DescribedFrom, has_put, decide_eq_true rfl, Bool.or_true]
  simp

theorem describedFrom_put_of_ne {r' : Record} {field field' : Field} (h : field ≠ field') :
    DescribedFrom (d.put r' field) ms r field' ↔ DescribedFrom d ms r field' := by
  rw [DescribedFrom, DescribedFrom, holds_put_of_ne h, has_put, decide_eq_false h, Bool.or_false]

theorem describedFrom_cons_self {field : Field} (hname : content? m.1 = some field.name) :
    DescribedFrom d (m :: ms) r field ↔
      d.has field = false ∧ Fits m.2 r field ∧ valuesOf field ms = [] := by
  rw [DescribedFrom, Described, valuesOf_cons, if_pos hname]
  simp only [List.cons_ne_nil, and_false, false_or, List.cons.injEq]
  constructor
  · rintro ⟨hhas, v, ⟨rfl, hnone⟩, hfits⟩
    exact ⟨hhas, hfits, hnone⟩
  · rintro ⟨hhas, hfits, hnone⟩
    exact ⟨hhas, m.2, ⟨rfl, hnone⟩, hfits⟩

theorem describedFrom_cons_of_ne {field : Field} (hname : content? m.1 ≠ some field.name) :
    DescribedFrom d (m :: ms) r field ↔ DescribedFrom d ms r field := by
  rw [DescribedFrom, DescribedFrom, Described, Described, valuesOf_cons, if_neg hname]

theorem takes_known_iff {field : Field} (hname : content? m.1 = some field.name) :
    Takes d m d' ↔ d.has field = false ∧ ∃ r, Fits m.2 r field ∧ d' = d.put r field := by
  constructor
  · intro h
    cases h with
    | known name new r fits =>
        rw [hname, Option.some.injEq] at name
        obtain rfl := name_injective name
        exact ⟨new, r, fits, rfl⟩
    | unknown name => exact absurd hname (name field)
  · rintro ⟨new, r, fits, rfl⟩
    exact .known hname new r fits

theorem takes_unknown_iff (hname : ∀ field : Field, content? m.1 ≠ some field.name) :
    Takes d m d' ↔ d' = d := by
  constructor
  · intro h
    cases h with
    | @known field name => exact absurd name (hname field)
    | unknown => rfl
  · rintro rfl
    exact .unknown hname

/-- The step of a member, seen from what is described. -/
theorem describedFrom_cons_iff :
    (∀ field, DescribedFrom d (m :: ms) r field) ↔
      ∃ d', Takes d m d' ∧ ∀ field, DescribedFrom d' ms r field := by
  by_cases hknown : ∃ field : Field, content? m.1 = some field.name
  · obtain ⟨field, hname⟩ := hknown
    have hother : ∀ {field'}, field ≠ field' → content? m.1 ≠ some field'.name := by
      intro field' hne heq
      rw [hname, Option.some.injEq] at heq
      exact hne (name_injective heq)
    simp only [takes_known_iff hname]
    -- only the field of the name changes, and the record says what is put there
    constructor
    · intro h
      obtain ⟨hnew, hfits, hnone⟩ := (describedFrom_cons_self hname).1 (h field)
      refine ⟨d.put r field, ⟨hnew, r, hfits, rfl⟩, fun field' => ?_⟩
      by_cases hfield : field = field'
      · rw [← hfield, describedFrom_put_self]
        exact ⟨holds_put_self field, hnone⟩
      · rw [describedFrom_put_of_ne hfield, ← describedFrom_cons_of_ne (hother hfield)]
        exact h field'
    · rintro ⟨_, ⟨hnew, r', hfits, rfl⟩, h⟩ field'
      by_cases hfield : field = field'
      · obtain ⟨hholds, hnone⟩ := describedFrom_put_self.1 (h field)
        rw [← hfield, describedFrom_cons_self hname]
        exact ⟨hnew, (fits_of_holds_put hholds).2 hfits, hnone⟩
      · rw [describedFrom_cons_of_ne (hother hfield), ← describedFrom_put_of_ne hfield]
        exact h field'
  · have hunknown : ∀ field : Field, content? m.1 ≠ some field.name := fun field hname =>
      hknown ⟨field, hname⟩
    simp only [describedFrom_cons_of_ne (hunknown _), takes_unknown_iff hunknown, exists_eq_left]

/-! ## Reading members -/

theorem record_eq_ok_iff : d.record = .ok r ↔ ∀ field, Holds d r field := by
  constructor
  · intro h field
    rw [Draft.record] at h
    split at h
    · rename_i hseq hsize hdata
      cases h
      cases field with
      | seq => exact hseq
      | size => exact hsize
      | data => exact hdata
    all_goals cases h
  · intro h
    have hseq : d.seq = some r.seq := h .seq
    have hsize : d.size = some r.size := h .size
    have hdata : d.data = some r.data := h .data
    rw [Draft.record, hseq, hsize, hdata]

theorem next_close {first : Bool} (h : skipSpace s = 0x7D :: u) :
    next first s = .ok (.close u) := by
  rw [next, h]
  rfl

theorem next_first (h : skipSpace s = 0x22 :: u) : next true s = .ok (.key u) := by
  rw [next, h]
  rfl

theorem next_comma (h : skipSpace s = 0x2C :: u) {v : Bytes} (hquote : skipSpace u = 0x22 :: v) :
    next false s = .ok (.key v) := by
  rw [next, h]
  dsimp only
  rw [if_neg (by decide), if_neg Bool.false_ne_true, if_pos rfl, hquote]
  rfl

theorem ofMembers_key {first : Bool} (hnext : next first s = .ok (.key u))
    (hmember : readMember d u = .ok (d', s')) :
    ofMembers d first s = ofMembers d' false s' := by
  rw [ofMembers, hnext]
  dsimp only
  rw [hmember]

theorem ofMembers_close {first : Bool} (hnext : next first s = .ok (.close rest)) :
    ofMembers d first s = d.record.map fun r => (r, rest) := by
  rw [ofMembers, hnext]

theorem ofMembers_comma (h : skipSpace s = 0x2C :: u) {v : Bytes}
    (hquote : skipSpace u = 0x22 :: v) : ofMembers d false s = ofMembers d true u := by
  rw [ofMembers, ofMembers, next_comma h hquote, next_first hquote]

theorem ofMembers_key_iff {first : Bool} (hnext : next first s = .ok (.key u)) :
    ofMembers d first s = .ok (r, s') ↔
      ∃ d' left, readMember d u = .ok (d', left) ∧ ofMembers d' false left = .ok (r, s') := by
  cases hread : readMember d u with
  | ok p =>
      rw [ofMembers_key hnext hread]
      constructor
      · exact fun h => ⟨p.1, p.2, rfl, h⟩
      · rintro ⟨d', left, heq, h⟩
        cases heq
        exact h
  | error fault =>
      rw [ofMembers, hnext]
      dsimp only
      rw [hread]
      simp

theorem ofMembers_close_iff {first : Bool} (h : skipSpace s = 0x7D :: u) :
    ofMembers d first s = .ok (r, s') ↔ (∀ field, Holds d r field) ∧ s' = u := by
  rw [ofMembers_close (next_close h), ← record_eq_ok_iff, map_eq_ok_iff]
  constructor
  · rintro ⟨read, hread, heq⟩
    cases heq
    exact ⟨hread, rfl⟩
  · rintro ⟨hread, rfl⟩
    exact ⟨r, hread, rfl⟩

theorem ofName?_eq_some_iff {key : Text} {field : Field} :
    Field.ofName? key = some field ↔ key = field.name := by
  constructor
  · intro h
    have hfound := List.find?_some h
    exact (beq_iff_eq.1 hfound).symm
  · rintro rfl
    exact ofName?_name field

theorem colon_encode {w : Text} (h : Space w) (s : Bytes) :
    colon (Utf8.encode w ++ 0x3A :: s) = .ok s := by
  rw [colon, skipSpace_encode h]
  rfl

/-- The name of a member decides what its value is read for. -/
theorem readMember_known {name : List Item} {key behind : Text} {field : Field}
    (body : Body name key) (hname : content? name = some field.name) (hspace : Space behind)
    (value : Bytes) :
    readMember d (Utf8.encode key ++ 0x22 :: (Utf8.encode behind ++ 0x3A :: value)) =
      if d.has field then .error (.misfit (.duplicate field)) else d.readField field value := by
  have hkey : ofFlaw (string (Utf8.encode key ++ 0x22 :: (Utf8.encode behind ++ 0x3A :: value))) =
      .ok (field.name, Utf8.encode behind ++ 0x3A :: value) :=
    ofFlaw_eq_ok_iff.2 ((string_eq_ok_iff body).2 ⟨hname, rfl⟩)
  rw [readMember, hkey, ok_bind]
  dsimp only
  rw [ofName?_name]
  dsimp only
  rw [colon_encode hspace, ok_bind]

theorem readMember_unknown {name : List Item} {key content behind : Text} (body : Body name key)
    (hname : content? name = some content) (hunknown : ∀ field : Field, content ≠ field.name)
    (hspace : Space behind) (value : Bytes) :
    readMember d (Utf8.encode key ++ 0x22 :: (Utf8.encode behind ++ 0x3A :: value)) =
      (ofFlaw (skipValue [] value)).map fun left => (d, left) := by
  have hkey : ofFlaw (string (Utf8.encode key ++ 0x22 :: (Utf8.encode behind ++ 0x3A :: value))) =
      .ok (content, Utf8.encode behind ++ 0x3A :: value) :=
    ofFlaw_eq_ok_iff.2 ((string_eq_ok_iff body).2 ⟨hname, rfl⟩)
  have hnone : Field.ofName? content = none := by
    rw [Option.eq_none_iff_forall_ne_some]
    exact fun field hfield => hunknown field (ofName?_eq_some_iff.1 hfield)
  rw [readMember, hkey, ok_bind]
  dsimp only
  rw [hnone]
  dsimp only
  rw [colon_encode hspace, ok_bind]
  cases skipValue [] value <;> rfl

/-- A member of the grammar is one step of the draft. -/
theorem readMember_member (h : Writes (.member m) t) (hkey : (content? m.1).isSome)
    (hends : Ends rest) :
    ∃ u left, skipSpace (Utf8.encode t ++ rest) = 0x22 :: u ∧ skipSpace left = skipSpace rest ∧
      ∀ d d' s', readMember d u = .ok (d', s') ↔ Takes d m d' ∧ s' = left := by
  cases h with
  | @member name v before key behind t spaceBefore body spaceBehind value =>
      obtain ⟨t', left, hvalue, hstart, hends', hleft⟩ := value.padded_value hends
      obtain ⟨content, hcontent⟩ := Option.isSome_iff_exists.1 hkey
      dsimp only at hcontent
      have hquote :
          skipSpace (Utf8.encode (before ++ '"' :: (key ++ '"' :: (behind ++ ':' :: t))) ++ rest) =
            0x22 :: (Utf8.encode key ++ 0x22 :: (Utf8.encode behind ++ 0x3A ::
              (Utf8.encode t ++ rest))) := by
        rw [Utf8.encode_append, List.append_assoc, skipSpace_encode spaceBefore, encode_key]
        exact skipSpace_cons rfl _
      refine ⟨_, left, hquote, hleft, fun d d' s' => ?_⟩
      -- the value of a field is read into the draft, any other is only skipped
      by_cases hknown : ∃ field : Field, content = field.name
      · obtain ⟨field, rfl⟩ := hknown
        rw [readMember_known body hcontent spaceBehind, readField_congr hstart,
          takes_known_iff hcontent]
        by_cases hhas : d.has field = true
        · rw [if_pos hhas, hhas]
          simp
        · rw [Bool.not_eq_true] at hhas
          rw [hhas, if_neg Bool.false_ne_true, readField_value hvalue hends']
          simp
      · have hunknown : ∀ field : Field, content ≠ field.name := fun field h => hknown ⟨field, h⟩
        have hname : ∀ field : Field, content? name ≠ some field.name := fun field h =>
          hunknown field (Option.some.inj (hcontent.symm.trans h))
        have hskip : skipValue [] (Utf8.encode t ++ rest) = .ok left := by
          rw [skipValue_congr hstart, hvalue.skip_value hends']
        rw [readMember_unknown body hcontent hunknown spaceBehind, hskip, takes_unknown_iff hname]
        show Except.ok (d, left) = .ok (d', s') ↔ _
        simp only [Except.ok.injEq, Prod.mk.injEq, eq_comm]

/-- What is read from the members is what they describe together with the draft. -/
theorem ofMembers_iff (h : Writes (.members ms) t) (hkeys : ∀ m ∈ ms, (content? m.1).isSome)
    (rest : Bytes) :
    ofMembers d true (Utf8.encode t ++ 0x7D :: rest) = .ok (r, s') ↔
      (∀ field, DescribedFrom d ms r field) ∧ s' = rest := by
  -- the draft changes from member to member, and so does what is left to describe
  induction ms generalizing t d with
  | nil => cases h
  | cons m ms ih =>
      obtain ⟨hkey, hkeys⟩ := List.forall_mem_cons.1 hkeys
      cases h with
      | lastMember member =>
          obtain ⟨u, left, hu, hleft, hread⟩ :=
            readMember_member member hkey (Ends.cons (b := 0x7D) rfl rest)
          rw [ofMembers_key_iff (next_first hu), describedFrom_cons_iff]
          simp only [hread, describedFrom_nil_iff]
          constructor
          · rintro ⟨d', _, ⟨htakes, rfl⟩, hrest⟩
            obtain ⟨hholds, rfl⟩ := (ofMembers_close_iff hleft).1 hrest
            exact ⟨⟨d', htakes, hholds⟩, rfl⟩
          · rintro ⟨⟨d', htakes, hholds⟩, rfl⟩
            exact ⟨d', left, ⟨htakes, rfl⟩, (ofMembers_close_iff hleft).2 ⟨hholds, rfl⟩⟩
      | @moreMembers _ _ t u member members =>
          obtain ⟨v, left, hv, hleft, hread⟩ := readMember_member member hkey
            (Ends.cons (b := 0x2C) rfl (Utf8.encode u ++ 0x7D :: rest))
          obtain ⟨w, hw⟩ := members.members_start (0x7D :: rest)
          rw [encode_comma, ofMembers_key_iff (next_first hv), describedFrom_cons_iff]
          simp only [hread]
          constructor
          · rintro ⟨d', _, ⟨htakes, rfl⟩, hrest⟩
            rw [ofMembers_comma hleft hw, ih members hkeys] at hrest
            exact ⟨⟨d', htakes, hrest.1⟩, hrest.2⟩
          · rintro ⟨⟨d', htakes, hrest⟩, hs⟩
            refine ⟨d', left, ⟨htakes, rfl⟩, ?_⟩
            rw [ofMembers_comma hleft hw, ih members hkeys]
            exact ⟨hrest, hs⟩

/-! ## Reading elements -/

/-- The reader stands before these elements of an array, `rest` being behind its bracket.  Only the
first element has no comma in front. -/
def AtElements (first : Bool) (vs : List Value) (rest s : Bytes) : Prop :=
  (vs = [] ∧ skipSpace s = 0x5D :: rest) ∨
    ∃ t u, Writes (.elements vs) t ∧ skipSpace u = skipSpace (Utf8.encode t ++ 0x5D :: rest) ∧
      skipSpace s = if first then skipSpace u else 0x2C :: u

theorem nextElement?_none {first : Bool} (h : skipSpace s = 0x5D :: u) :
    nextElement? first s = .ok none := by
  rw [nextElement?, h]
  rfl

theorem nextElement?_some {first : Bool} {b : UInt8} {v : Bytes}
    (h : skipSpace s = if first then skipSpace u else 0x2C :: u) (hu : skipSpace u = b :: v)
    (hb : b ≠ 0x5D) : nextElement? first s = .ok (some (b :: v)) := by
  rw [nextElement?, h]
  cases first with
  | true =>
      rw [if_pos rfl, hu]
      dsimp only
      rw [if_neg hb, if_pos rfl]
  | false =>
      rw [if_neg Bool.false_ne_true]
      dsimp only
      rw [if_neg (by decide), if_neg Bool.false_ne_true, if_pos rfl, hu]
      dsimp only
      rw [if_neg hb]

/-- What stands behind an element are the others. -/
theorem AtElements.split {first : Bool} (h : AtElements first (v :: vs) rest s) :
    ∃ a t left, nextElement? first s = .ok (some a) ∧ Writes (.value v) t ∧
      skipSpace a = skipSpace (Utf8.encode t ++ left) ∧ Ends left ∧
        AtElements false vs rest left := by
  rcases h with ⟨hnil, -⟩ | ⟨t, u, helements, hu, hs⟩
  · cases hnil
  obtain ⟨b, w, hw, hb⟩ := helements.elements_start (0x5D :: rest)
  have hstart : skipSpace u = b :: w := hu.trans hw
  -- the reader has skipped the space before it finds that there is an element
  have hskip : skipSpace (b :: w) = skipSpace (Utf8.encode t ++ 0x5D :: rest) := by
    rw [← hw, skipSpace_skipSpace]
  refine ⟨b :: w, ?_⟩
  cases helements with
  | lastElement element =>
      obtain ⟨t', left, hvalue, htext, hends, hleft⟩ := element.padded_value
        (Ends.cons (b := 0x5D) rfl rest)
      exact ⟨t', left, nextElement?_some hs hstart hb, hvalue, hskip.trans htext, hends,
        .inl ⟨rfl, hleft⟩⟩
  | @moreElements _ _ t more element elements =>
      obtain ⟨t', left, hvalue, htext, hends, hleft⟩ := element.padded_value
        (Ends.cons (b := 0x2C) rfl (Utf8.encode more ++ 0x5D :: rest))
      rw [encode_comma] at hskip
      exact ⟨t', left, nextElement?_some hs hstart hb, hvalue, hskip.trans htext, hends,
        .inr ⟨more, _, elements, rfl, hleft⟩⟩

theorem endOfArray_iff (h : AtElements false vs rest s) :
    endOfArray s = .ok s' ↔ vs = [] ∧ s' = rest := by
  rw [endOfArray]
  rcases h with ⟨rfl, hs⟩ | ⟨t, u, helements, -, hs⟩
  · rw [hs]
    show Except.ok rest = .ok s' ↔ _
    simp [eq_comm]
  · rw [hs]
    show malformed = _ ↔ _
    refine iff_of_false (fun h => nomatch h) ?_
    rintro ⟨rfl, -⟩
    cases helements

theorem bind_read_iff {α β : Type} {x : Except Fault (α × Bytes)} {f : α × Bytes → Except Fault β}
    {P : α → Prop} {left : Bytes} {b : β} (hx : ∀ a s', x = .ok (a, s') ↔ P a ∧ s' = left) :
    (x >>= f) = .ok b ↔ ∃ a, P a ∧ f (a, left) = .ok b := by
  rw [bind_eq_ok_iff]
  constructor
  · rintro ⟨⟨a, s'⟩, ha, hf⟩
    obtain ⟨hP, rfl⟩ := (hx a s').1 ha
    exact ⟨a, hP, hf⟩
  · rintro ⟨a, hP, hf⟩
    exact ⟨(a, left), (hx a left).2 ⟨hP, rfl⟩, hf⟩

theorem AtElements.none {first : Bool} (h : AtElements first [] rest s) :
    nextElement? first s = .ok none := by
  rcases h with ⟨-, hs⟩ | ⟨t, u, helements, -, -⟩
  · exact nextElement?_none hs
  · cases helements

theorem ofElements_iff (h : AtElements true vs rest s) :
    ofElements s = .ok (r, s') ↔ Describes (.array vs) r ∧ s' = rest := by
  rw [ofElements]
  cases vs with
  | nil =>
      rw [h.none]
      refine iff_of_false (fun h => nomatch h) ?_
      rintro ⟨⟨_, _, _, hvs, -⟩, -⟩
      cases hvs
  | cons seq vs =>
      obtain ⟨a, t, left, hnext, hvalue, ha, hends, h⟩ := h.split
      rw [hnext, ok_bind]
      dsimp only
      rw [readNatural_congr ha, bind_read_iff fun _ _ => readNatural_value hvalue hends]
      cases vs with
      | nil =>
          simp [h.none, ok_bind, Describes]
      | cons size vs =>
          obtain ⟨a, t, left, hnext, hvalue, ha, hends, h⟩ := h.split
          simp only [hnext, ok_bind, readNatural_congr ha,
            bind_read_iff fun _ _ => readNatural_value hvalue hends]
          cases vs with
          | nil =>
              simp [h.none, ok_bind, Describes]
          | cons data vs =>
              obtain ⟨a, t, left, hnext, hvalue, ha, hends, h⟩ := h.split
              simp only [hnext, ok_bind, readText_congr ha,
                bind_read_iff fun _ _ => readText_value hvalue left]
              simp only [bind_eq_ok_iff, endOfArray_iff h]
              constructor
              · rintro ⟨n, hseq, m, hsize, content, hdata, _, ⟨rfl, rfl⟩, heq⟩
                cases heq
                exact ⟨⟨seq, size, data, rfl, hseq, hsize, hdata⟩, rfl⟩
              · rintro ⟨⟨_, _, _, heq, hseq, hsize, hdata⟩, rfl⟩
                cases heq
                exact ⟨r.seq, hseq, r.size, hsize, r.data, hdata, s', ⟨rfl, rfl⟩, rfl⟩

/-! ## Reading texts -/

theorem not_describes_nil : ¬ Describes (.object []) r := by
  intro h
  obtain ⟨v, hv, -⟩ := h .seq
  cases hv

theorem readValue_ne_ok {b : UInt8} {p : Record × Bytes} (hspace : isSpace b = false)
    (harray : b ≠ 0x5B) (hobject : b ≠ 0x7B) (s : Bytes) : readValue (b :: s) ≠ .ok p := by
  rw [readValue, skipSpace_cons hspace]
  dsimp only
  rw [if_neg harray, if_neg hobject]
  exact mistyped_ne_ok

theorem readValue_value (h : Writes (.value v) t) (hkeys : KeysDecode v) (rest : Bytes) :
    readValue (Utf8.encode t ++ rest) = .ok (r, s') ↔ Describes v r ∧ s' = rest := by
  obtain ⟨b, u, hu, hb⟩ := h.value_start
  cases h with
  | @noElements w space =>
      rw [encode_between (by decide) (by decide)]
      exact ofElements_iff (.inl ⟨rfl, skipSpace_encode space (0x5D :: rest)⟩)
  | @array vs t elements =>
      rw [encode_between (by decide) (by decide)]
      exact ofElements_iff (.inr ⟨t, _, elements, rfl, rfl⟩)
  | @noMembers w space =>
      rw [encode_between (by decide) (by decide)]
      refine (ofMembers_close_iff (skipSpace_encode space (0x7D :: rest))).trans ?_
      refine and_congr_left' (iff_of_false (fun h => ?_) not_describes_nil)
      cases h .seq
  | @object ms t members =>
      rw [encode_between (by decide) (by decide)]
      refine (ofMembers_iff members hkeys rest).trans (and_congr_left' ?_)
      exact forall_congr' fun _ => describedFrom_empty_iff
  | number =>
      rw [hu, List.cons_append]
      refine iff_of_false ?_ And.left
      rcases hb with rfl | hdigit
      · exact readValue_ne_ok rfl (by decide) (by decide) _
      · exact readValue_ne_ok (isSpace_of_isDigit hdigit) (ne_of_isDigit hdigit rfl)
          (ne_of_isDigit hdigit rfl) _
  | null | trueWord | falseWord | string =>
      cases hb
      rw [hu, List.cons_append]
      exact iff_of_false (readValue_ne_ok rfl (by decide) (by decide) _) And.left

theorem ofJson_eq_ok_iff (h : IsText v t) (hkeys : KeysDecode v) :
    ofJson (Utf8.encode t) = .ok r ↔ Describes v r := by
  cases h with
  | @padded _ before t behind spaceBefore value spaceBehind =>
      have hread : ∀ r s', readValue (Utf8.encode (before ++ (t ++ behind))) = .ok (r, s') ↔
          Describes v r ∧ s' = Utf8.encode behind := by
        intro r s'
        rw [Utf8.encode_append, Utf8.encode_append, ← readValue_value value hkeys, readValue,
          skipSpace_encode spaceBefore, ← readValue]
      have hend : skipSpace (Utf8.encode behind) = [] := by
        rw [← List.append_nil (Utf8.encode behind), skipSpace_encode spaceBehind]
        rfl
      rw [ofJson, bind_read_iff hread]
      simp only [hend, List.isEmpty_nil, if_true, Except.ok.injEq, exists_eq_right]

/-! ## Layout -/

theorem valuesOf_perm {field : Field} (h : ms.Perm ms') :
    (valuesOf field ms).Perm (valuesOf field ms') := (h.filter _).map _

theorem described_perm {field : Field} (h : ms.Perm ms') (hd : Described ms r field) :
    Described ms' r field := by
  obtain ⟨v, hv, hfits⟩ := hd
  have hperm : (valuesOf field ms).Perm (valuesOf field ms') := valuesOf_perm h
  rw [hv, List.singleton_perm] at hperm
  exact ⟨v, hperm.symm, hfits⟩

theorem Rearranged.keysDecode_iff {w : Value} (h : Rearranged v w) :
    KeysDecode v ↔ KeysDecode w := by
  induction h with
  | refl v => exact Iff.rfl
  | permuted perm => exact forall_congr' fun m => by rw [perm.mem_iff]
  | added v decodes unknown => 
      rw [KeysDecode, KeysDecode, List.forall_mem_cons, decodes]
      simp
  | symm _ ih => exact ih.symm
  | trans _ _ ih ih' => exact ih.trans ih'

theorem Rearranged.describes_iff {w : Value} (h : Rearranged v w) :
    Describes v r ↔ Describes w r := by
  induction h with
  | refl v => exact Iff.rfl
  | permuted perm =>
      exact forall_congr' fun _ => ⟨described_perm perm, described_perm perm.symm⟩
  | added v decodes unknown =>
      refine forall_congr' fun field => ?_
      rw [Described, Described, valuesOf_cons, if_neg]
      rw [decodes, Option.some.injEq]
      exact unknown field
  | symm _ ih => exact ih.symm
  | trans _ _ ih ih' => exact ih.trans ih'

/-- A record is read from a JSON text where the value of the text describes it, and only there.  So
every text of a rearranged value gives the same record, or none as well. -/
theorem ofJson_reads_described (h : IsText v t) (hkeys : KeysDecode v) (r : Record) :
    (ofJson (Utf8.encode t) = .ok r ↔ Describes v r) ∧
      ∀ w u, Rearranged v w → IsText w u →
        (ofJson (Utf8.encode u) = .ok r ↔ ofJson (Utf8.encode t) = .ok r) := by
  refine ⟨ofJson_eq_ok_iff h hkeys, fun w u hw hu => ?_⟩
  rw [ofJson_eq_ok_iff h hkeys, ofJson_eq_ok_iff hu (hw.keysDecode_iff.1 hkeys), hw.describes_iff]

/-- Fields in another order, an escape in a name, a name of no field and white space. -/
theorem ofJson_reads_described_scattered :
    ofJson (Utf8.encode
      "\x7b \"x\":[null],\"data\":\"a\",\"s\\u0065q\":7,\"size\":2\x7d\n".toList) =
        .ok ⟨7, 2, ['a']⟩ := by
  have hx := Writes.member (t := "[null]".toList) (by simp [Space] : Space [' '])
    (Body.ofBare (t := ['x']) rfl) .nil (.tight (.array (.lastElement (.tight .null))))
  have hdata := Writes.tightMember (Body.ofBare (t := "data".toList) rfl)
    (.string (Body.ofBare (t := ['a']) rfl))
  have hseq := Writes.tightMember (Body.cons (@Item.Writes.plain 's' (by decide) (by decide)
    (by decide)) (.cons (@Item.Writes.unit '0' '0' '6' '5' 0 0 6 5 rfl rfl rfl rfl)
      (Body.ofBare (t := ['q']) rfl))) (Literal.writes_ofNat 7)
  have hsize := Writes.tightMember (Body.ofBare (t := "size".toList) rfl) (Literal.writes_ofNat 2)
  have htext := Writes.padded .nil (.object (.moreMembers hx (.moreMembers hdata
    (.moreMembers hseq (.lastMember hsize))))) (by simp [Space] : Space ['\n'])
  refine (ofJson_reads_described htext ?_ _).1.2 ?_
  · simp only [KeysDecode, List.forall_mem_cons]
    exact ⟨rfl, rfl, rfl, rfl, List.forall_mem_nil _⟩
  · intro field
    cases field with
    | seq => exact ⟨_, rfl, isNatural_ofNat (by decide)⟩
    | size => exact ⟨_, rfl, isNatural_ofNat (by decide)⟩
    | data => exact ⟨_, rfl, _, rfl, rfl⟩

end FrameTap.Record
