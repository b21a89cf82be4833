import NatsFleet.Cluster.Spec
import NatsFleet.Cluster.Status
import NatsFleet.Proofs.JsonText

/-!
What is written of a declared cluster, as a value or as a text, is read back unchanged.
-/
namespace NatsFleet
namespace Json

variable {α σ : Type}

structure Decoder.Inverts (d : Decoder α) (encode : α → Json) : Prop where
  whole : ∀ a, (encode a).IsWhole
  reads : ∀ origin a, d origin (encode a).toDocument = .ok a

namespace Decoder

theorem string_inverts : string.Inverts .string := ⟨fun _ => trivial, fun _ _ => rfl⟩

theorem bool_inverts : bool.Inverts .bool := ⟨fun _ => trivial, fun _ _ => rfl⟩

/-- A number of 32 bits is decoded from itself. -/
theorem natural32_inverts : natural32.Inverts fun n => .nat n.toNat := by
  constructor
  · intro n
    have hfits := n.toNat_lt
    show -9223372036854775808 ≤ (n.toNat : Int) ∧ (n.toNat : Int) < 18446744073709551616
    omega
  · intro origin n
    have hfits : (0 : Int) ≤ n.toNat ∧ (n.toNat : Int) ≤ 4294967295 := by
      have hlt := n.toNat_lt
      omega
    have hbetween : between 0 4294967295 "u32" origin (Json.nat n.toNat).toDocument = .ok (n.toNat : Int) :=
      if_pos hfits
    rw [natural32, hbetween]
    simp [bind, Except.bind]

/-- What an optional part is read back from, unless it could be taken for an absent one. -/
theorem option_inverts {d : Decoder α} {encode : α → Json} (h : d.Inverts encode)
    (hnull : ∀ a, encode a ≠ .null) : (option d).Inverts (ofOption encode) := by
  constructor
  · intro a
    cases a with
    | none => trivial
    | some a => exact h.whole a
  · intro origin a
    cases a with
    | none => rfl
    | some a =>
      have hsome : option d origin (encode a).toDocument = (d origin (encode a).toDocument).map some := by
        have hne := hnull a
        generalize encode a = j at hne ⊢
        cases j with
        | null => exact absurd rfl hne
        | _ => rfl
      rw [ofOption, hsome, h.reads origin a]
      rfl

/-- Lists are inverted item by item. -/
theorem list_inverts {d : Decoder α} {encode : α → Json} (h : d.Inverts encode) :
    (list d).Inverts fun as => .array (as.map encode) := by
  constructor
  · intro as
    show ItemsWhole (as.map encode)
    induction as with
    | nil => trivial
    | cons a rest ih => exact ⟨h.whole a, ih⟩
  · intro origin as
    show items d origin .closed (itemsToDocument (as.map encode)) = .ok as
    induction as with
    | nil => rfl
    | cons a rest ih =>
      rw [List.map_cons, itemsToDocument, items, h.reads origin a, ih]
      rfl

/-! ## Records -/

/-- The fields of a record, one after the other, are those of an object, and reading them changes one
record into another. -/
inductive Fills (origin : Origin) : List (Slot σ) → List (String × Json) → σ → σ → Prop
  | nil (s : σ) : Fills origin [] [] s s
  | cons {slot : Slot σ} {slots : List (Slot σ)} {value : Json} {fields : List (String × Json)}
      {s s' s'' : σ} (hread : slot.read origin value.toDocument s = .ok s')
      (hrest : Fills origin slots fields s' s'') :
      Fills origin (slot :: slots) ((slot.name, value) :: fields) s s''

/-- A slot is found by its name. -/
theorem find?_slot {slots : List (Slot σ)} (hnames : (slots.map Slot.name).Nodup) {slot : Slot σ}
    (hslot : slot ∈ slots) : slots.find? (fun other => other.name == slot.name) = some slot := by
  induction slots with
  | nil => cases hslot
  | cons first rest ih =>
    rw [List.map_cons, List.nodup_cons] at hnames
    rcases List.mem_cons.mp hslot with rfl | hrest
    · exact List.find?_cons_of_pos (beq_self_eq_true _)
    · have hne : first.name ≠ slot.name := fun heq => hnames.1 (heq ▸ List.mem_map_of_mem hrest)
      rw [List.find?_cons_of_neg (by simpa using hne)]
      exact ih hnames.2 hrest

/-- The fields after those that have been seen are read in the order of the record. -/
theorem ofFields_fills {origin : Origin} {slots : List (Slot σ)} (hnames : (slots.map Slot.name).Nodup)
    {after : List (Slot σ)} {fields : List (String × Json)} {s s' : σ}
    (hfills : Fills origin after fields s s') (before : List (Slot σ)) (hslots : slots = before ++ after)
    (seen : List String) (hseen : ∀ name, name ∈ seen ↔ name ∈ before.map Slot.name) :
    ofFields true slots origin .closed (fieldsToDocument fields) seen s = .ok s' := by
  induction hfills generalizing before seen with
  | nil s =>
    have hall : slots.find? (fun slot => slot.required && !seen.contains slot.name) = none := by
      rw [List.find?_eq_none]
      intro slot hslot hmissing
      rw [hslots, List.append_nil] at hslot
      have hname := (hseen slot.name).mpr (List.mem_map_of_mem hslot)
      simp [hname] at hmissing
    rw [fieldsToDocument, ofFields, hall]
    rfl
  | @cons slot rest value fields s s' s'' hread _ ih =>
    have hmem : slot ∈ slots := by simp [hslots]
    have hnew : slot.name ∉ seen := by
      rw [hseen]
      rw [hslots, List.map_append, List.nodup_append] at hnames
      intro hold
      exact hnames.2.2 _ hold slot.name (by simp) rfl
    have hrest := ih (before ++ [slot]) (by simp [hslots]) (slot.name :: seen) fun name => by
      simp [hseen, or_comm]
    rw [fieldsToDocument, ofFields]
    simp only [orFault, bind, Except.bind]
    rw [find?_slot hnames hmem]
    simp only [Bool.true_and, List.contains_eq_mem, hnew, decide_false, Bool.false_eq_true, if_false]
    rw [hread]
    exact hrest

/-- A record whose fields fill its slots one after another is decoded as what they make. -/
theorem record_fills {title : String} {slots : List (Slot σ)} {start s : σ}
    {fields : List (String × Json)} {origin : Origin} (hnames : (slots.map Slot.name).Nodup)
    (hfills : Fills origin slots fields start s) :
    record title slots start origin (toDocument (.object fields)) = .ok s :=
  ofFields_fills hnames hfills [] rfl [] fun _ => Iff.rfl

/-- An optional field that is given is put in its place. -/
theorem read_optional {d : Decoder α} {encode : α → Json} (h : d.Inverts encode) (origin : Origin)
    (name : String) (put : σ → α → σ) (s : σ) (a : α) :
    (Slot.optional name d put).read origin (encode a).toDocument s = .ok (put s a) :=
  congrArg (Except.map (put s)) (h.reads origin a)

theorem read_mandatory {d : Decoder α} {encode : α → Json} (h : d.Inverts encode) (origin : Origin)
    (name : String) (put : σ → α → σ) (s : σ) (a : α) :
    (Slot.mandatory name d put).read origin (encode a).toDocument s = .ok (put s a) :=
  congrArg (Except.map (put s)) (h.reads origin a)

/-- What is written for a value is read back, as a value and as a text. So whatever has been read, from any
value or text, is written in a form that gives it back, and that does not change any more when it is read
and written again. -/
structure RoundTrips (d : Decoder α) (encode : α → Json) : Prop where
  value : ∀ a, d.readValue (encode a) = .ok a
  text : ∀ a, d.readText (encode a).text = .ok a
  again : ∀ j a, d.readValue j = .ok a → d.readValue (encode a) = .ok a ∧
    (d.readValue (encode a)).map encode = .ok (encode a)
  againText : ∀ t a, d.readText t = .ok a → d.readText (encode a).text = .ok a ∧
    (d.readText (encode a).text).map (fun b => (encode b).text) = .ok (encode a).text

/-- What is inverted as a value is inverted as a text. -/
theorem Inverts.readText {d : Decoder α} {encode : α → Json} (h : d.Inverts encode) (a : α) :
    d.readText (encode a).text = .ok a := by
  unfold Decoder.readText
  rw [readDocument_text _ (h.whole a)]
  simp only [bind, Except.bind]
  rw [h.reads .text a]

/-- Hence it makes the round trip, and its texts are fixed points. -/
theorem Inverts.roundTrips {d : Decoder α} {encode : α → Json} (h : d.Inverts encode) :
    d.RoundTrips encode := by
  have hvalue : ∀ a, d.readValue (encode a) = .ok a := h.reads .value
  refine ⟨hvalue, h.readText, fun j a _ => ⟨hvalue a, ?_⟩, fun t a _ => ⟨h.readText a, ?_⟩⟩
  · rw [hvalue a]
    rfl
  · rw [h.readText a]
    rfl

end Decoder
end Json

open Json.Decoder

theorem optional_text_inverts :
    (option string).Inverts (Json.ofOption .string) :=
  option_inverts string_inverts nofun

theorem TlsSecrets.decoder_inverts : TlsSecrets.decoder.Inverts TlsSecrets.toJson := by
  constructor
  · intro t
    exact ⟨optional_text_inverts.whole t.server, optional_text_inverts.whole t.routes, trivial⟩
  · intro origin t
    apply record_fills (by decide)
    exact .cons (read_optional optional_text_inverts _ _ _ _ t.server)
      (.cons (read_optional optional_text_inverts _ _ _ _ t.routes) (.nil t))

theorem LogFlags.decoder_inverts : LogFlags.decoder.Inverts LogFlags.toJson := by
  constructor
  · intro f
    exact ⟨trivial, trivial, trivial⟩
  · intro origin f
    apply record_fills (by decide)
    exact .cons (read_optional bool_inverts _ _ _ _ f.debug)
      (.cons (read_optional bool_inverts _ _ _ _ f.trace) (.nil f))

/-- Specs are decoded from what they are encoded as. -/
theorem ClusterSpec.decoder_inverts : ClusterSpec.decoder.Inverts ClusterSpec.toJson := by
  have htls : (option TlsSecrets.decoder).Inverts (Json.ofOption TlsSecrets.toJson) :=
    option_inverts TlsSecrets.decoder_inverts nofun
  have hlogging : (option LogFlags.decoder).Inverts (Json.ofOption LogFlags.toJson) :=
    option_inverts LogFlags.decoder_inverts nofun
  constructor
  · intro s
    exact ⟨natural32_inverts.whole s.size, trivial, trivial, htls.whole s.tls, hlogging.whole s.logging,
      trivial⟩
  · intro origin s
    apply record_fills (by decide)
    exact .cons (read_optional natural32_inverts _ _ _ _ s.size)
      (.cons (read_optional string_inverts _ _ _ _ s.version)
      (.cons (read_optional string_inverts _ _ _ _ s.serverImage)
      (.cons (read_optional htls _ _ _ _ s.tls)
      (.cons (read_optional hlogging _ _ _ _ s.logging) (.nil s)))))

theorem Condition.decoder_inverts : Condition.decoder.Inverts Condition.toJson := by
  constructor
  · intro c
    exact ⟨trivial, trivial, optional_text_inverts.whole c.lastTransitionTime,
      optional_text_inverts.whole c.reason, optional_text_inverts.whole c.message, trivial⟩
  · intro origin c
    apply record_fills (by decide)
    exact .cons (read_mandatory string_inverts _ _ _ _ c.type)
      (.cons (read_mandatory string_inverts _ _ _ _ c.status)
      (.cons (read_optional optional_text_inverts _ _ _ _ c.lastTransitionTime)
      (.cons (read_optional optional_text_inverts _ _ _ _ c.reason)
      (.cons (read_optional optional_text_inverts _ _ _ _ c.message) (.nil c)))))

theorem Phase.decoder_inverts : Phase.decoder.Inverts Phase.toJson := by
  constructor
  · intro p
    trivial
  · intro origin p
    cases p <;> rfl

theorem ClusterStatus.decoder_inverts : ClusterStatus.decoder.Inverts ClusterStatus.toJson := by
  have hconditions : (list Condition.decoder).Inverts fun cs => .array (cs.map Condition.toJson) :=
    list_inverts Condition.decoder_inverts
  constructor
  · intro s
    exact ⟨trivial, natural32_inverts.whole s.size, natural32_inverts.whole s.readySize, trivial,
      hconditions.whole s.conditions, optional_text_inverts.whole s.lastUpdated, trivial⟩
  · intro origin s
    apply record_fills (by decide)
    exact .cons (read_optional Phase.decoder_inverts _ _ _ _ s.phase)
      (.cons (read_optional natural32_inverts _ _ _ _ s.size)
      (.cons (read_optional natural32_inverts _ _ _ _ s.readySize)
      (.cons (read_optional string_inverts _ _ _ _ s.version)
      (.cons (read_optional hconditions _ _ _ _ s.conditions)
      (.cons (read_optional optional_text_inverts _ _ _ _ s.lastUpdated) (.nil s))))))

/-- Specs, statuses and conditions are read back from what is written for them. -/
theorem cluster_round_trips : ClusterSpec.decoder.RoundTrips ClusterSpec.toJson ∧
    ClusterStatus.decoder.RoundTrips ClusterStatus.toJson ∧
    Condition.decoder.RoundTrips Condition.toJson :=
  ⟨ClusterSpec.decoder_inverts.roundTrips, ClusterStatus.decoder_inverts.roundTrips,
    Condition.decoder_inverts.roundTrips⟩

/-- A spec that is read may lack fields, and have fields of other names. -/
example : ClusterSpec.decoder.readValue (.object [("size", .nat 3), ("kind", .null)]) =
    .ok { size := 3 } := by rfl

end NatsFleet
