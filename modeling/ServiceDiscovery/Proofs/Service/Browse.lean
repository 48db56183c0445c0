import ServiceDiscovery.Proofs.Discovery.Transcript
import ServiceDiscovery.Proofs.Message.Origin
import ServiceDiscovery.Proofs.Message.RoundTrip
import ServiceDiscovery.Proofs.QueryPacket.Encoding
import ServiceDiscovery.Query

/-!
# Browsing for services

The labels of service types and of domains fit into a message and have no dots,
whatever text they were read from (`Name.IsPlain`). So the question that browses
for a service type can always be sent, it carries just these labels, and what has
them in a message is read as the name that was asked for
(`Question.browse_answerable`).
-/

namespace ServiceDiscovery

theorem Name.intercalate_append_dot {labels : List String} (h : labels ≠ []) :
    ".".intercalate labels ++ "." = ofLabels labels := by
  induction labels with
  | nil => exact absurd rfl h
  | cons label rest ih =>
    rw [ofLabels_cons]
    by_cases hrest : rest = []
    · subst hrest
      simp [ofLabels]
    · rw [String.intercalate_cons_of_ne_nil hrest, String.append_assoc, ih hrest]

/-! ## Labels of service types and domains -/

/-- A label that stands for itself in messages and in texts: it is neither empty nor
too long, and no dot divides it. -/
def Name.IsPlain (label : String) : Prop :=
  label ≠ "" ∧ label.utf8ByteSize ≤ maxLabelLength ∧ '.' ∉ label.toList

instance (label : String) : Decidable (Name.IsPlain label) :=
  inferInstanceAs (Decidable (_ ∧ _))

theorem Protocol.isPlain_label (protocol : Protocol) : Name.IsPlain protocol.label := by
  cases protocol <;> decide

/-- A service is labelled with an underscore, letters, digits and hyphens. -/
theorem isPlain_of_isServiceLabel {label : String} (h : isServiceLabel label = true) :
    Name.IsPlain label := by
  rw [isServiceLabel] at h
  split at h
  · rename_i body hchars
    simp only [Bool.and_eq_true, decide_eq_true_eq, List.all_eq_true] at h
    obtain ⟨⟨-, hlength⟩, hall⟩ := h
    refine ⟨?_, hlength, ?_⟩
    · rintro rfl
      cases hchars
    · rw [hchars]
      intro hmem
      rcases List.mem_cons.mp hmem with hunderscore | hmem
      · exact absurd hunderscore (by decide)
      · exact absurd (hall '.' hmem) (by decide)
  · cases h

theorem ServiceType.isPlain_of_mem_labels {type : ServiceType} {label : String}
    (h : label ∈ type.labels) : Name.IsPlain label := by
  rcases List.mem_append.mp h with hservice | hprotocol
  · exact isPlain_of_isServiceLabel (type.service_valid label (Option.mem_toList.mp hservice))
  · rw [List.mem_singleton.mp hprotocol]
    exact type.protocol.isPlain_label

namespace Domain

variable {domain : Domain}

/-- A domain that queries are made for: that of the link or one that was read from
a text. -/
def Accepted (domain : Domain) : Prop :=
  domain = .linkLocal ∨ ∃ text, parse text = .ok domain

theorem mem_of_mem_afterProtocol {label : String} {labels : List String}
    (h : label ∈ afterProtocol labels) : label ∈ labels := by
  rw [afterProtocol, List.mem_reverse] at h
  exact List.mem_reverse.mp ((List.takeWhile_sublist _).subset h)

theorem labels_of_ofLabels? {labels : List String} (h : ofLabels? labels = some domain) :
    domain.labels = labels := by
  rw [ofLabels?] at h
  split at h
  · cases h
    rfl
  · cases h

theorem labels_of_parse {text : String} (h : parse text = .ok domain) :
    domain.labels = afterProtocol (Name.dropFinalDot text).pieces := by
  unfold parse at h
  split at h
  · rename_i found hfound
    cases h
    exact labels_of_ofLabels? hfound
  · cases h

/-- Labels that are read from a text are pieces of it, so they have no dots. -/
theorem Accepted.isPlain_of_mem_labels {label : String} (h : domain.Accepted)
    (hmem : label ∈ domain.labels) : Name.IsPlain label := by
  obtain ⟨hne, hlength⟩ := domain.label_valid label hmem
  refine ⟨hne, hlength, ?_⟩
  rcases h with rfl | ⟨text, hparse⟩
  · rw [List.mem_singleton.mp hmem]
    decide
  · rw [labels_of_parse hparse] at hmem
    exact (Name.le_and_dotless_of_mem_pieces (mem_of_mem_afterProtocol hmem)).2

end Domain

/-! ## The browse question -/

/-- A record has the name that is laid out where the record stands. -/
theorem Record.name_of_laidOut {message : Message} {start stop last : Nat}
    {labels : List String} {record : Record} (h : Name.LaidOut message start start labels stop)
    (hread : Record.read message start = .ok record last) :
    record.name = Name.ofLabels labels := by
  obtain ⟨middle, type, length, hname, -, -⟩ := Record.data_of_read hread
  exact (Reader.fieldAt_unique hname ⟨labels, rfl, h⟩).1

theorem Transport.ofJoined_ne_encode (v4 v6 : Bool) (cause : WireError) :
    ofJoined v4 v6 ≠ .error (.encode cause) := by
  intro h
  rw [ofJoined] at h
  split at h <;> cases h

namespace Question

variable {type : ServiceType} {domain : Domain}

theorem name_browse (type : ServiceType) (domain : Domain) :
    (browse type domain).name = Name.ofLabels (type.labels ++ domain.labels) :=
  Name.intercalate_append_dot (by simp [domain.labels_ne_nil])

theorem encode_browse (h : domain.Accepted) :
    (browse type domain).encode =
      .ok ((browse type domain).queryOctets (type.labels ++ domain.labels)).toArray := by
  have hplain : ∀ label ∈ type.labels ++ domain.labels, Name.IsPlain label :=
    List.forall_mem_append.mpr
      ⟨fun _ => ServiceType.isPlain_of_mem_labels, fun _ => h.isPlain_of_mem_labels⟩
  have hfit : Name.Fitting (type.labels ++ domain.labels) :=
    fun label hmem => ⟨(hplain label hmem).1, (hplain label hmem).2.1⟩
  exact (encode_eq_iff_dotless (name_browse type domain).symm hfit).mpr
    fun label hmem => (hplain label hmem).2.2

/-- Services of any type can be browsed for in any domain that is accepted. The
question carries the labels of the type and then those of the domain. Wherever a
message has a name with these labels, with references or without, it is read as
the name of the question, so a record with that name answers it. No discovery
that begins with the question fails because it can't be written, whichever groups
can be joined. -/
theorem browse_answerable (type : ServiceType) (domain : Domain) (h : domain.Accepted) :
    (browse type domain).encode =
      .ok ((browse type domain).queryOctets (type.labels ++ domain.labels)).toArray ∧
    (∀ message start stop,
      Name.LaidOut message start start (type.labels ++ domain.labels) stop →
      (∃ reading, Name.decode message start = .ok reading ∧
        reading.text = (browse type domain).name) ∧
      ∀ record last, Record.read message start = .ok record last →
        (browse type domain).answeredBy record = true) ∧
    (∀ window groups arrivals outcomes, ∃ instances,
      (Discovery.run (browse type domain) window groups arrivals outcomes).result =
        .ok instances) ∧
    ∀ window interface joins arrivals cause,
      ({ type, domain, window, interface } : Query).run joins arrivals ≠
        .error (.encode cause) := by
  have hrun : ∀ window groups arrivals outcomes, ∃ instances,
      (Discovery.run (browse type domain) window groups arrivals outcomes).result =
        .ok instances := by
    intro window groups arrivals outcomes
    rw [Discovery.run_eq, encode_browse h]
    exact ⟨_, rfl⟩
  refine ⟨encode_browse h, ?_, hrun, ?_⟩
  · intro message start stop hlaid
    refine ⟨⟨_, hlaid.decode_eq, (name_browse type domain).symm⟩, fun record last hread => ?_⟩
    rw [answeredBy, Record.name_of_laidOut hlaid hread, name_browse]
    exact decide_eq_true rfl
  · intro window interface joins arrivals cause
    rw [Query.run]
    cases htransport : Transport.ofJoined (joins interface .v4) (joins interface .v6) with
    | error refusal =>
      intro hfailed
      cases hfailed
      exact Transport.ofJoined_ne_encode _ _ cause htransport
    | ok transport =>
      obtain ⟨instances, hresult⟩ := hrun window transport.groups arrivals []
      intro hfailed
      exact absurd (hresult.symm.trans hfailed) (by simp)

/-- The services `_http._tcp`. -/
def webServer : ServiceType where
  service := some "_http"
  protocol := .tcp
  service_valid := by decide

/-- A domain with a label that is not ASCII, as the name of a service in it gives
it. -/
def officeDomain : Domain where
  labels := ["büro", "home"]
  labels_ne_nil := by decide
  label_valid := by decide

theorem parse_officeDomain : Domain.parse "_ipp._tcp.büro.home." = .ok officeDomain := by
  decide +kernel

/-- An address record, whose name goes on with a reference to a name that goes on
with a reference itself. -/
def webServerRecord : Message :=
  #[4, 0x68, 0x6f, 0x6d, 0x65, 0,
    5, 0x62, 0xc3, 0xbc, 0x72, 0x6f, 0xc0, 0,
    5, 0x5f, 0x68, 0x74, 0x74, 0x70, 4, 0x5f, 0x74, 0x63, 0x70, 0xc0, 6,
    0, 1, 0, 1, 0, 0, 0, 10, 0, 4, 10, 0, 0, 1]

theorem webServerRecord_home : Name.LaidOut webServerRecord 0 0 ["home"] 6 :=
  .label (by decide) (by decide) (by decide) (.root (by decide))

theorem webServerRecord_office : Name.LaidOut webServerRecord 6 6 ["büro", "home"] 14 :=
  .label (by decide) (by decide) (by decide)
    (.reference (by decide) (by decide) (by decide) webServerRecord_home)

theorem webServerRecord_name :
    Name.LaidOut webServerRecord 14 14 ["_http", "_tcp", "büro", "home"] 27 :=
  .label (by decide) (by decide) (by decide)
    (.label (by decide) (by decide) (by decide)
      (.reference (by decide) (by decide) (by decide) webServerRecord_office))

theorem webServerRecord_laidOut :
    Record.LaidOut webServerRecord 14
      { name := "_http._tcp.büro.home.", ttl := 10, data := .a { octets := #v[10, 0, 0, 1] } }
      41 :=
  @Record.LaidOut.intro _ _ _ 27 4 false ⟨_, rfl, webServerRecord_name⟩ (by decide) (by decide)
    (.a (by decide))

/-- Web servers are browsed for in that domain with four labels. -/
theorem browse_answerable_office :
    officeDomain.Accepted ∧
      (browse webServer officeDomain).encode =
        .ok ((browse webServer officeDomain).queryOctets
          ["_http", "_tcp", "büro", "home"]).toArray ∧
      ∃ record, Record.read webServerRecord 14 = .ok record 41 ∧
        (browse webServer officeDomain).answeredBy record = true := by
  have haccepted : officeDomain.Accepted := .inr ⟨_, parse_officeDomain⟩
  obtain ⟨hencode, hanswers, -⟩ := browse_answerable webServer officeDomain haccepted
  have hread := webServerRecord_laidOut.read_eq
  exact ⟨haccepted, hencode, _, hread, (hanswers _ _ _ webServerRecord_name).2 _ _ hread⟩

end Question

end ServiceDiscovery
