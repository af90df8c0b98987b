import HiveChameleon.Gateway.EventReading
import HiveChameleon.Gateway.Policy

/-!
# Gateway.EventEncoding — the one text of an event

`protocol/events.ts` over the event schema: what serialization writes, parsing reads, and no event has
a second text.
-/

namespace HiveChameleon.Gateway

open Lib

/-! ### The codec of the schema -/

section

variable (J : JsRuntime)

/-- The event of a value; one that the schema refuses has none, and nothing reads it. -/
def eventOf (v : Json) : HiveChameleonEvent :=
  (((EventSchema.hiveChameleonEventSchema J).parse v).bind readEvent).getD
    (.collectibleRevoked ⟨⟨0⟩, ⟨""⟩, ⟨0⟩, ⟨0⟩, ⟨"none", by decide⟩⟩)

def hiveCodec : EventCodec where
  Value := Json
  parseJson := jsonParse J.numberText
  safeParse := (EventSchema.hiveChameleonEventSchema J).parse
  canonicalJson := canonicalJson
  event := eventOf J

/-- The value is an event: the schema hands it on as it is. -/
def IsEvent (v : Json) : Prop :=
  ∃ d, (EventSchema.hiveChameleonEventSchema J).parse v = some d ∧ d.Same v

end

section

variable {J : JsRuntime} {v d e e' : Json} {p q : String}

theorem readEvent_of_parse (h : (EventSchema.hiveChameleonEventSchema J).parse v = some d) :
    readEvent d = some (eventOf J v) := by
  obtain ⟨event, hevent⟩ := EventSchema.readEvent_total h
  rw [eventOf, h, Option.bind_some, hevent]
  rfl

theorem isEvent_of_parse (h : (EventSchema.hiveChameleonEventSchema J).parse v = some d) :
    IsEvent J d := by
  obtain ⟨again, hagain, hsame⟩ := Option.map_eq_some_iff.mp
    ((EventSchema.hiveChameleonEventSchema J).stable v d h)
  exact ⟨again, hagain, hsame⟩

theorem serialize_eq_ok : (hiveCodec J).serializeHiveChameleonEvent v = .ok p ↔
    ∃ d, (EventSchema.hiveChameleonEventSchema J).parse v = some d ∧ canonicalJson d = p ∧
      p.utf8ByteSize ≤ hiveChameleonMaxPayloadBytes :=
  EventCodec.serializeHiveChameleonEvent_eq_ok _

theorem parse_eq_ok : (hiveCodec J).parseHiveChameleonEvent p = .ok e ↔
    p.utf8ByteSize ≤ hiveChameleonMaxPayloadBytes ∧
      (∃ v, jsonParse J.numberText p = some v ∧
        (EventSchema.hiveChameleonEventSchema J).parse v = some e) ∧ canonicalJson e = p :=
  EventCodec.parseHiveChameleonEvent_eq_ok _

theorem isEvent_of_parse_eq_ok (h : (hiveCodec J).parseHiveChameleonEvent p = .ok e) :
    IsEvent J e := by
  obtain ⟨-, ⟨v, -, hv⟩, -⟩ := parse_eq_ok.mp h
  exact isEvent_of_parse hv

theorem eventOf_congr (hd : (EventSchema.hiveChameleonEventSchema J).parse v = some d)
    (he : (EventSchema.hiveChameleonEventSchema J).parse e = some e') (h : d.Same e') :
    eventOf J v = eventOf J e := by
  have hread := readEvent_of_parse hd
  rw [← readEvent_normal, show d.normal = e'.normal from h, readEvent_normal, readEvent_of_parse he] at hread
  exact (Option.some.inj hread).symm

/-- The canonical text of what the schema hands on is read, and handed on as the same event. -/
theorem parse_canonicalJson (hd : (EventSchema.hiveChameleonEventSchema J).parse v = some d) :
    ∃ e, jsonParse J.numberText (canonicalJson d) = some d.normal ∧
      (EventSchema.hiveChameleonEventSchema J).parse d.normal = some e ∧ e.Same d ∧
        eventOf J e = eventOf J d := by
  obtain ⟨again, hagain, hsame⟩ := isEvent_of_parse hd
  -- The parsed text has the keys in the canonical order, which the schema does not see.
  have hread := (EventSchema.hiveChameleonEventSchema J).respects d.normal d (Json.Same.normal d)
  rw [hagain, Option.map_some] at hread
  obtain ⟨e, he, hnormal⟩ := Option.map_eq_some_iff.mp hread
  have hsame' : e.Same d := Json.Same.trans hnormal hsame
  obtain ⟨again', hagain', hnext⟩ := isEvent_of_parse he
  have hevent : eventOf J e = eventOf J d :=
    eventOf_congr hagain' hagain ((hnext.trans hsame').trans hsame.symm)
  exact ⟨e, jsonParse_canonicalJson _ ((EventSchema.hiveChameleonEventSchema J).tidy v d hd), he,
    hsame', hevent⟩

theorem parse_serialize (h : (hiveCodec J).serializeHiveChameleonEvent v = .ok p)
    (hd : (EventSchema.hiveChameleonEventSchema J).parse v = some d) :
    ∃ e, (hiveCodec J).parseHiveChameleonEvent p = .ok e ∧ e.Same d := by
  obtain ⟨d', hd', rfl, hsize⟩ := serialize_eq_ok.mp h
  obtain rfl := Option.some.inj (hd.symm.trans hd')
  obtain ⟨e, htext, he, hsame, -⟩ := parse_canonicalJson hd
  exact ⟨e, parse_eq_ok.mpr ⟨hsize, ⟨d.normal, htext, he⟩, canonicalJson_congr hsame⟩, hsame⟩

theorem parse_of_serialize (h : (hiveCodec J).serializeHiveChameleonEvent v = .ok p) :
    ∃ e, (hiveCodec J).parseHiveChameleonEvent p = .ok e ∧ eventOf J e = eventOf J v := by
  obtain ⟨d, hd, -⟩ := serialize_eq_ok.mp h
  obtain ⟨e, he, hsame⟩ := parse_serialize h hd
  obtain ⟨again, hagain, hsame'⟩ := isEvent_of_parse_eq_ok he
  exact ⟨e, he, eventOf_congr hagain hd (hsame'.trans hsame)⟩

theorem serialize_parse (h : (hiveCodec J).parseHiveChameleonEvent p = .ok e) :
    (hiveCodec J).serializeHiveChameleonEvent e = .ok p := by
  obtain ⟨hsize, -, hcanonical⟩ := parse_eq_ok.mp h
  obtain ⟨again, hagain, hsame⟩ := isEvent_of_parse_eq_ok h
  refine serialize_eq_ok.mpr ⟨again, hagain, ?_, hsize⟩
  rw [canonicalJson_congr hsame, hcanonical]

theorem payload_unique (hp : (hiveCodec J).parseHiveChameleonEvent p = .ok e)
    (hq : (hiveCodec J).parseHiveChameleonEvent q = .ok e') (h : e.Same e') : p = q := by
  obtain ⟨-, -, rfl⟩ := parse_eq_ok.mp hp
  obtain ⟨-, -, rfl⟩ := parse_eq_ok.mp hq
  exact canonicalJson_congr h

/-- **An event has one accepted text.**  Parsing the serialization of an event gives the event, up to the
order of its keys, serializing a parsed text gives the text, and texts of one event are equal; a value
that the schema accepts is serialized as what the schema hands on of it, which is an event. -/
theorem events_have_one_encoding (J : JsRuntime) :
    (∀ event payload, IsEvent J event →
        (hiveCodec J).serializeHiveChameleonEvent event = .ok payload →
        ∃ event', (hiveCodec J).parseHiveChameleonEvent payload = .ok event' ∧ event'.Same event) ∧
      (∀ payload event, (hiveCodec J).parseHiveChameleonEvent payload = .ok event →
        IsEvent J event ∧ (hiveCodec J).serializeHiveChameleonEvent event = .ok payload) ∧
      (∀ payload payload' event event',
        (hiveCodec J).parseHiveChameleonEvent payload = .ok event →
        (hiveCodec J).parseHiveChameleonEvent payload' = .ok event' → event.Same event' →
        payload = payload') ∧
      (∀ value data payload, (EventSchema.hiveChameleonEventSchema J).parse value = some data →
        IsEvent J data ∧
          ((hiveCodec J).serializeHiveChameleonEvent value = .ok payload →
            ∃ event, (hiveCodec J).parseHiveChameleonEvent payload = .ok event ∧ event.Same data)) := by
  refine ⟨fun event payload hevent hpayload => ?_, fun payload event hparse => ?_,
    fun payload payload' event event' hparse hparse' hsame => ?_, fun value data payload hdata => ?_⟩
  · obtain ⟨data, hdata, hsame⟩ := hevent
    obtain ⟨event', hparse, hsame'⟩ := parse_serialize hpayload hdata
    exact ⟨event', hparse, hsame'.trans hsame⟩
  · exact ⟨isEvent_of_parse_eq_ok hparse, serialize_parse hparse⟩
  · exact payload_unique hparse hparse' hsame
  · exact ⟨isEvent_of_parse hdata, fun hpayload => parse_serialize hpayload hdata⟩

end

/-! ### A revocation -/

/-- A runtime that knows one time. -/
def exampleJs : JsRuntime where
  numberText := id
  datetime text := text == "2026-01-01T00:00:00.000Z"
  dateParse _ := 1767225600000
  url text := some text
  isHttps text := "https://".toList.isPrefixOf text.toList
  url_stable _ _ _ := rfl

def exampleRevocation : Json := .object [
  ("v", .number "1"),
  ("type", .string "collectible_revoked"),
  ("event_id", .string "01900000-0000-7000-8000-000000000001"),
  ("occurred_at", .string "2026-01-01T00:00:00.000Z"),
  ("data", .object [
    ("collectible_id", .string "01900000-0000-7000-8000-000000000002"),
    ("issued_event_id", .string "01900000-0000-7000-8000-000000000003"),
    ("reason_code", .string "duplicate")])]

theorem parse_exampleRevocation :
    (EventSchema.hiveChameleonEventSchema exampleJs).parse exampleRevocation =
      some exampleRevocation := by
  rfl

theorem size_exampleRevocation :
    (canonicalJson exampleRevocation).utf8ByteSize ≤ hiveChameleonMaxPayloadBytes := by
  decide +kernel

theorem serialize_exampleRevocation :
    (hiveCodec exampleJs).serializeHiveChameleonEvent exampleRevocation =
      .ok (canonicalJson exampleRevocation) :=
  serialize_eq_ok.mpr ⟨_, parse_exampleRevocation, rfl, size_exampleRevocation⟩

theorem events_have_one_encoding_revocation :
    ∃ event, (hiveCodec exampleJs).parseHiveChameleonEvent (canonicalJson exampleRevocation) =
      .ok event ∧ event.Same exampleRevocation :=
  (events_have_one_encoding exampleJs).1 exampleRevocation (canonicalJson exampleRevocation)
    (isEvent_of_parse parse_exampleRevocation) serialize_exampleRevocation

end HiveChameleon.Gateway
