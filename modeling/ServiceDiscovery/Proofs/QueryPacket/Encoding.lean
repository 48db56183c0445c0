import ServiceDiscovery.Proofs.Name.Spelling
import ServiceDiscovery.QueryPacket

/-!
# Messages that ask a question

The octets of a query. Counting a question changes nothing in a header but the
number of questions (`Header.countQuestion_octets`), so a question is encoded
behind a header that counts one, if its name can be written
(`Question.encode_eq`).
-/

namespace ServiceDiscovery

theorem Octets.ofNat_two (n : Nat) : ofNat 2 n = [(n / 256).toUInt8, n.toUInt8] := rfl

namespace Header

variable {header : Header} {body : List UInt8}

theorem questionCount_octets :
    questionCount (header.octets ++ body).toArray = header.questions := by
  have hcount : questionCount (header.octets ++ body).toArray =
      (Octets.toNat (Octets.ofNat 2 header.questions.toNat)).toUInt16 := by
    simp [questionCount, fieldAt, octets, fields, Octets.ofNat_two]
  rw [hcount, Octets.toNat_ofNat header.questions.toNat_lt]
  exact UInt16.ofNat_toNat

theorem setFieldAt_octets (count : UInt16) :
    setFieldAt 4 count (header.octets ++ body).toArray =
      ({ header with questions := count }.octets ++ body).toArray := by
  have hhigh : (count >>> 8).toUInt8 = (count.toNat / 256).toUInt8 := by
    apply UInt8.toNat_inj.mp
    simp [Nat.shiftRight_eq_div_pow]
  simp [setFieldAt, octets, fields, Octets.ofNat_two, hhigh]

theorem incrementQuestions_octets (h : header.questions ≠ 0xffff) :
    incrementQuestions (header.octets ++ body).toArray =
      .ok (header.questions + 1)
        ({ header with questions := header.questions + 1 }.octets ++ body).toArray := by
  have hcount : fieldAt 4 (header.octets ++ body).toArray = header.questions :=
    questionCount_octets
  simp only [incrementQuestions, increment, hcount, if_neg h, setFieldAt_octets]

theorem incrementQuestions_octets_of_full (h : header.questions = 0xffff) :
    incrementQuestions (header.octets ++ body).toArray =
      .error .tooManyEntries (header.octets ++ body).toArray := by
  have hcount : fieldAt 4 (header.octets ++ body).toArray = header.questions :=
    questionCount_octets
  simp only [incrementQuestions, increment, hcount, if_pos h]

theorem countQuestion_octets (h : header.questions ≠ 0xffff) :
    countQuestion (header.octets ++ body).toArray =
      .ok ({ header with questions := header.questions + 1 }.octets ++ body).toArray := by
  rw [countQuestion, incrementQuestions_octets h]

theorem countQuestion_octets_of_full (h : header.questions = 0xffff) :
    countQuestion (header.octets ++ body).toArray = .error .tooManyEntries := by
  rw [countQuestion, incrementQuestions_octets_of_full h]

end Header

namespace Question

variable {question : Question} {labels others : List String}

/-- The octets of a message that asks one question, whose name has these labels
and is written in full. -/
def queryOctets (question : Question) (labels : List String) : List UInt8 :=
  ({ questions := 1 } : Header).octets ++ Name.fullOctets labels ++
    Octets.ofNat 2 question.type.code.toNat ++
    Octets.ofNat 2 (question.cls.code ||| classTopBit).toNat

theorem encode_eq (question : Question) :
    question.encode = question.name.write.map fun name =>
      (({ questions := 1 } : Header).octets ++ name ++
        Octets.ofNat 2 question.type.code.toNat ++
        Octets.ofNat 2 (question.cls.code ||| classTopBit).toNat).toArray := by
  rw [encode, QueryPacket.ask, Question.octets]
  cases question.name.write with
  | error cause => rfl
  | ok name =>
    have hcount : ∀ body : List UInt8,
        Header.countQuestion ((QueryPacket.empty 0).message ++ body) =
          .ok (({ questions := 1 } : Header).octets ++ body).toArray := by
      intro body
      rw [QueryPacket.empty, List.toArray_appendList]
      exact Header.countQuestion_octets (by decide)
    simp [Except.map, hcount, bind, Except.bind, pure, Except.pure]

/-- A question for a name that was spelled out can be asked, its labels divided at
their dots. -/
theorem encode_of_fitting (hname : Name.ofLabels labels = question.name)
    (h : Name.Fitting labels) :
    question.encode = .ok (question.queryOctets (Name.divided labels)).toArray := by
  rw [encode_eq, ← hname, Name.write_ofLabels h]
  rfl

theorem queryOctets_inj (h : Name.Fitting labels) (hothers : Name.Fitting others)
    (heq : question.queryOctets labels = question.queryOctets others) : labels = others := by
  simp only [queryOctets, List.append_assoc, List.append_cancel_left_eq] at heq
  exact h.fullOctets_inj hothers (List.append_cancel_right heq)

/-- The labels of a name that was spelled out are asked for as they were just if
none of them has a dot. -/
theorem encode_eq_iff_dotless (hname : Name.ofLabels labels = question.name)
    (h : Name.Fitting labels) :
    question.encode = .ok (question.queryOctets labels).toArray ↔ Name.Dotless labels := by
  rw [encode_of_fitting hname h, Except.ok.injEq]
  constructor
  · intro heq
    have hlists := congrArg Array.toList heq
    rw [List.toList_toArray, List.toList_toArray] at hlists
    rw [← queryOctets_inj h.divided h hlists]
    exact Name.dotless_divided labels
  · intro hdot
    rw [Name.divided_of_dotless h.ne_empty hdot]

end Question

end ServiceDiscovery
