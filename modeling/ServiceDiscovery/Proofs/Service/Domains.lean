import Mathlib.Data.List.TakeWhile
import ServiceDiscovery.Proofs.Service.Browse

/-!
# Domains and the names in them

The name of a domain is read as that domain, with the final dot or without it, and
so is the name of a service or an instance in it: the labels behind the last
protocol are the domain's, since none of them names a protocol itself
(`Domain.Accepted.not_protocol`). Whatever text stands in front, the domain comes
back (`Question.parse_browse`).
-/

namespace ServiceDiscovery

namespace Name

variable {text : Name} {labels : List String}

/-- Labels without dots are the pieces of the text that they are joined to. -/
theorem pieces_intercalate (hne : labels ≠ []) (hdot : Dotless labels) :
    pieces (".".intercalate labels) = labels := by
  have hchars : ∀ chars ∈ labels.map String.toList, '.' ∉ chars := by
    intro chars hmem
    obtain ⟨label, hlabel, rfl⟩ := List.mem_map.mp hmem
    exact hdot label hlabel
  have hsplit := List.splitOn_intercalate '.' hchars (by simpa using hne)
  have hdotText : ".".toList = ['.'] := rfl
  rw [pieces, String.toList_intercalate, hdotText, hsplit, List.map_map]
  simp

theorem dropFinalDot_append_dot (text : Name) : dropFinalDot (text ++ ".") = text := by
  have hchars : (text ++ ".").toList = text.toList ++ ['.'] := by simp
  rw [dropFinalDot, hchars, List.getLast?_concat, if_pos rfl, List.dropLast_concat,
    String.ofList_toList]

/-- A text without empty pieces has no final dot. -/
theorem dropFinalDot_eq_self (h : "" ∉ pieces text) : dropFinalDot text = text := by
  rw [dropFinalDot]
  split
  · -- behind the final dot there would be an empty piece
    rename_i hlast
    obtain ⟨front, hfront⟩ := List.getLast?_eq_some_iff.mp hlast
    have htext : text = String.ofList front ++ "." ++ "" := by
      apply String.toList_inj.mp
      simp [hfront]
    rw [htext, pieces_append_dot] at h
    exact absurd (List.mem_append_right _ (List.mem_singleton_self "")) h
  · rfl

end Name

/-! ## Labels behind the last protocol -/

namespace Protocol

variable {label : String} {protocol : Protocol}

theorem ofLabel?_eq_some_iff : ofLabel? label = some protocol ↔ label = protocol.label := by
  constructor
  · intro h
    rw [ofLabel?] at h
    split at h
    · rename_i htcp
      cases h
      exact htcp
    · split at h
      · rename_i hudp
        cases h
        exact hudp
      · cases h
  · rintro rfl
    cases protocol <;> rfl

theorem ofLabel?_eq_none_iff :
    ofLabel? label = none ↔ ∀ protocol : Protocol, label ≠ protocol.label := by
  simp only [Option.eq_none_iff_forall_ne_some, ne_eq, ofLabel?_eq_some_iff]

end Protocol

namespace Domain

variable {domain : Domain} {label text : String} {labels front : List String}

theorem ofLabel?_of_mem_afterProtocol (h : label ∈ afterProtocol labels) :
    Protocol.ofLabel? label = none := by
  rw [afterProtocol, List.mem_reverse] at h
  exact of_decide_eq_true (List.all_eq_true.mp List.all_takeWhile label h)

/-- Labels that name no protocol are passed over from behind. -/
theorem decide_ofLabel?_of_mem_reverse (h : ∀ label ∈ labels, Protocol.ofLabel? label = none) :
    ∀ label ∈ labels.reverse, decide (Protocol.ofLabel? label = none) = true :=
  fun label hmem => decide_eq_true (h label (List.mem_reverse.mp hmem))

theorem afterProtocol_eq_self (h : ∀ label ∈ labels, Protocol.ofLabel? label = none) :
    afterProtocol labels = labels := by
  rw [afterProtocol, List.takeWhile_eq_self_iff.mpr (decide_ofLabel?_of_mem_reverse h),
    List.reverse_reverse]

/-- Nothing in front of the last protocol is left, be it more protocols. -/
theorem afterProtocol_append (protocol : Protocol)
    (h : ∀ label ∈ labels, Protocol.ofLabel? label = none) :
    afterProtocol (front ++ protocol.label :: labels) = labels := by
  have hstop : decide (Protocol.ofLabel? protocol.label = none) = false := by
    rw [Protocol.ofLabel?_eq_some_iff.mpr rfl]
    rfl
  have hreverse : (front ++ protocol.label :: labels).reverse =
      labels.reverse ++ protocol.label :: front.reverse := by simp
  rw [afterProtocol, hreverse,
    List.takeWhile_append_of_pos (decide_ofLabel?_of_mem_reverse h), List.takeWhile_cons, hstop,
    if_neg Bool.false_ne_true, List.append_nil, List.reverse_reverse]

/-! ## Reading a domain back -/

theorem ofLabels?_labels (domain : Domain) : ofLabels? domain.labels = some domain :=
  dif_pos ⟨domain.labels_ne_nil, domain.label_valid⟩

theorem parse_of_afterProtocol
    (h : afterProtocol (Name.dropFinalDot text).pieces = domain.labels) :
    parse text = .ok domain := by
  unfold parse
  rw [h, ofLabels?_labels]

/-- A domain that was read has none of the protocols that it was searched for. -/
theorem Accepted.not_protocol (h : domain.Accepted) :
    ∀ label ∈ domain.labels, Protocol.ofLabel? label = none := by
  rcases h with rfl | ⟨text, hparse⟩
  · decide
  · intro label hmem
    rw [labels_of_parse hparse] at hmem
    exact ofLabel?_of_mem_afterProtocol hmem

theorem Accepted.dotless (h : domain.Accepted) : Name.Dotless domain.labels :=
  fun _ hmem => (h.isPlain_of_mem_labels hmem).2.2

theorem Accepted.pieces_name (h : domain.Accepted) : Name.pieces domain.name = domain.labels :=
  Name.pieces_intercalate domain.labels_ne_nil h.dotless

theorem Accepted.parse_name (h : domain.Accepted) : parse domain.name = .ok domain := by
  have hfinal : "" ∉ Name.pieces domain.name := by
    rw [h.pieces_name]
    exact fun hmem => (domain.label_valid "" hmem).1 rfl
  apply parse_of_afterProtocol
  rw [Name.dropFinalDot_eq_self hfinal, h.pieces_name, afterProtocol_eq_self h.not_protocol]

theorem Accepted.parse_display (h : domain.Accepted) : parse domain.display = .ok domain := by
  apply parse_of_afterProtocol
  rw [display, Name.dropFinalDot_append_dot, h.pieces_name, afterProtocol_eq_self h.not_protocol]

/-- Labels of a service type in front of those of a domain are passed over with all
that precedes them. -/
theorem Accepted.parse_of_pieces (h : domain.Accepted) (front : List String)
    (type : ServiceType)
    (hpieces : (Name.dropFinalDot text).pieces = front ++ (type.labels ++ domain.labels)) :
    parse text = .ok domain := by
  apply parse_of_afterProtocol
  have hsplit : front ++ (type.labels ++ domain.labels) =
      (front ++ type.service.toList) ++ type.protocol.label :: domain.labels := by
    simp [ServiceType.labels]
  rw [hpieces, hsplit, afterProtocol_append type.protocol h.not_protocol]

end Domain

namespace Question

variable {type : ServiceType} {domain : Domain}

/-- The name that is browsed for without its final dot. -/
theorem pieces_intercalate_labels (h : domain.Accepted) :
    Name.pieces (".".intercalate (type.labels ++ domain.labels)) =
      type.labels ++ domain.labels := by
  apply Name.pieces_intercalate (by simp [domain.labels_ne_nil])
  exact List.forall_mem_append.mpr
    ⟨fun _ hmem => (ServiceType.isPlain_of_mem_labels hmem).2.2, h.dotless⟩

/-- The name that services are browsed for by tells the domain that they are browsed
for in, and so does the name of each of them, whatever the text in front of it. The
names of the domain tell it too. Its labels are neither empty nor too long nor
protocols, and joined by dots they are its name. -/
theorem parse_browse (type : ServiceType) (domain : Domain) (h : domain.Accepted) :
    Domain.parse (browse type domain).name = .ok domain ∧
    (∀ text, Domain.parse (text ++ "." ++ (browse type domain).name) = .ok domain) ∧
    Domain.parse domain.name = .ok domain ∧
    Domain.parse domain.display = .ok domain ∧
    domain.labels ≠ [] ∧
    (∀ label ∈ domain.labels, label ≠ "" ∧ label.utf8ByteSize ≤ Name.maxLabelLength ∧
      label ≠ "_tcp" ∧ label ≠ "_udp") ∧
    domain.name = ".".intercalate domain.labels := by
  have hname : (browse type domain).name =
      ".".intercalate (type.labels ++ domain.labels) ++ "." := rfl
  refine ⟨?_, fun text => ?_, h.parse_name, h.parse_display, domain.labels_ne_nil, ?_, rfl⟩
  · apply h.parse_of_pieces [] type
    rw [hname, Name.dropFinalDot_append_dot, pieces_intercalate_labels h, List.nil_append]
  · apply h.parse_of_pieces (Name.pieces text) type
    rw [hname, ← String.append_assoc, Name.dropFinalDot_append_dot, Name.pieces_append_dot,
      pieces_intercalate_labels h]
  · intro label hmem
    obtain ⟨hne, hlength⟩ := domain.label_valid label hmem
    have hprotocol := Protocol.ofLabel?_eq_none_iff.mp (h.not_protocol label hmem)
    exact ⟨hne, hlength, hprotocol .tcp, hprotocol .udp⟩

/-- A protocol, an empty piece and a service type stand in front of the domain. -/
theorem parse_browse_office :
    officeDomain.Accepted ∧
      (browse webServer officeDomain).name = "_http._tcp.büro.home." ∧
      Domain.parse ("Zelda._udp." ++ "." ++ (browse webServer officeDomain).name) =
        .ok officeDomain ∧
      Domain.parse officeDomain.display = .ok officeDomain := by
  have haccepted : officeDomain.Accepted := .inr ⟨_, parse_officeDomain⟩
  obtain ⟨-, hbehind, -, hdisplay, -⟩ := parse_browse webServer officeDomain haccepted
  exact ⟨haccepted, rfl, hbehind _, hdisplay⟩

end Question

end ServiceDiscovery
