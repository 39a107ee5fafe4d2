import StrictCsp.Middleware

/-!
# The contract of the response step

The step that hardens responses on their way out answers every response in
one of five ways, stated here by `Answers` in the terms of HTTP:

* a response that is not read whole passes as it came, without drawing: the
  response to a HEAD request, a status outside 200 to 299, a first content
  type that is not visible ASCII or names neither HTML nor XML, a content
  encoding, or a body of unknown size or above eight mebibytes;
* a body that fails while it is read is replaced by an empty one, and its
  content length is dropped;
* a body that is not UTF-8 passes as it came;
* a page the processor does not harden (an XML document is eligible only
  when it holds a partial response), or whose policies are not valid header
  values, passes as it came, the processor's draws kept;
* otherwise the hardened page is sent with each policy header set over the
  present values of its name and the content length of the new page
  (`mem_rewritten_headers`).

Main statement: the step never stops, keeps the status, and its answers and
final sources are exactly the ones `Answers` relates (`respond_contract`). A
content type that is not visible ASCII names no type at all, even when its
MIME part reads as HTML (`respond_passes_unreadable_type`).
-/

namespace StrictCsp.Middleware

open StrictCsp.Text StrictCsp.Entropy

/-- The MIME type a content type value names: its part before the first semicolon, trimmed,
with its ASCII letters lowered. -/
def mimeOf (v : String) : String :=
  String.ofList ((trim (v.toList.takeWhile (· != ';'))).map asciiLower)

/-- The MIME types of HTML pages. -/
def htmlMime (m : String) : Bool := m == "text/html" || m == "application/xhtml+xml"

/-- The MIME types of XML documents. -/
def xmlMime (m : String) : Bool := m == "text/xml" || m == "application/xml"

/-- The text that marks an XML document as a partial response. -/
def partialResponseMarker : String := "partial-response"

/-- A response whose body is read whole: the response to a request other than HEAD, with a
success status, a first content type of visible ASCII naming HTML or XML, no content encoding,
and a body whose size is known and within the limit. -/
structure ReadsWhole (isHead : Bool) (r : Response) : Prop where
  notHead : isHead = false
  success : 200 ≤ r.status ∧ r.status ≤ 299
  typed : ∃ v, r.header? "content-type" = some v ∧ v.toList.all isVisibleAscii = true ∧
    (htmlMime (mimeOf v) = true ∨ xmlMime (mimeOf v) = true)
  unencoded : r.header? "content-encoding" = none
  sized : r.kind ≠ .stream ∧ r.body.length ≤ bufferLimit

/-- Whether a page read as text is handed to the processor as eligible: an HTML page always, an
XML document when it holds a partial response (`eligibleText_eq`). -/
def eligibleText (r : Response) (text : String) : Bool :=
  match contentKind r with
  | .html => true
  | .xml => containsText text partialResponseMarker
  | .other => false

/-- The body of a response as text, when its bytes are UTF-8. -/
def decodeBody (r : Response) : Option String := String.fromUTF8? (ByteArray.mk r.body.toArray)

/-- Every policy header value is one a response may carry. -/
def HeaderValuesValid (hs : List (String × String)) : Prop :=
  ∀ h ∈ hs, h.2.toList.all isHeaderValueChar = true

/-- A hardened response: the processor's page, the policy headers set in lowercase over the
ones present, and the content length of the new page. -/
def Response.rewritten (r : Response) (q : Processed) : Reply :=
  let body := String.ofList q.body
  ⟨r.status, setHeaders (setHeaders r.headers (lowerNames q.headers))
    [("content-length", toString body.utf8ByteSize)], .bytes body.toUTF8.toList⟩

/-- A hardened response carries the headers present under names no policy header has, the policy
headers, and the content length of its page in UTF-8 bytes, which replaces any other. -/
theorem mem_rewritten_headers {r : Response} {q : Processed} {h : String × String} :
    h ∈ (r.rewritten q).headers ↔
      (((h ∈ r.headers ∧ ∀ n ∈ lowerNames q.headers, n.1 ≠ h.1) ∨ h ∈ lowerNames q.headers) ∧
        h.1 ≠ "content-length") ∨
      h = ("content-length", toString (String.ofList q.body).utf8ByteSize) := by
  simp only [Response.rewritten, mem_setHeaders, List.mem_singleton, forall_eq, ne_comm]

/-- How the step answers a response, and the random source it leaves. -/
inductive Answers (p : Processor) (isHead : Bool) (r : Response) :
    Source → Reply → Source → Prop where
  /-- A response that is not read whole passes as it is, without drawing. -/
  | passes {src : Source} : ¬ ReadsWhole isHead r → Answers p isHead r src r.unchanged src
  /-- A body that fails while it is read is replaced by an empty one without a length. -/
  | emptied {src : Source} : ReadsWhole isHead r → r.kind = .failing →
      Answers p isHead r src r.emptied src
  /-- A body that is not UTF-8 passes as it is. -/
  | notText {src : Source} : ReadsWhole isHead r → r.kind = .full → decodeBody r = none →
      Answers p isHead r src r.unchanged src
  /-- A page the processor does not harden, or whose policies cannot be header values, passes
  as it is, with what the processor drew. -/
  | declined {src fin : Source} {text : String} {q : Processed} : ReadsWhole isHead r →
      r.kind = .full → decodeBody r = some text →
      (p.process text.toList (eligibleText r text)).run src = (.ok q, fin) →
      ¬ (q.outcome = .hardened ∧ HeaderValuesValid q.headers) →
      Answers p isHead r src r.unchanged fin
  /-- A hardened page with valid policies is served with them and its new length. -/
  | rewritten {src fin : Source} {text : String} {q : Processed} : ReadsWhole isHead r →
      r.kind = .full → decodeBody r = some text →
      (p.process text.toList (eligibleText r text)).run src = (.ok q, fin) →
      q.outcome = .hardened → HeaderValuesValid q.headers →
      Answers p isHead r src (r.rewritten q) fin

/-- A response whose first content type is readable has the kind its MIME type names. -/
theorem contentKind_of_visible {r : Response} {v : String} (h : r.header? "content-type" = some v)
    (hv : v.toList.all isVisibleAscii = true) :
    contentKind r =
      if htmlMime (mimeOf v) then .html else if xmlMime (mimeOf v) then .xml else .other := by
  unfold contentKind
  simp only [h, hv, Bool.not_true, Bool.false_eq_true, if_false]
  rfl

/-- A response whose first content type is missing or unreadable names no kind. -/
theorem contentKind_of_not_visible {r : Response}
    (h : ∀ v, r.header? "content-type" = some v → v.toList.all isVisibleAscii = false) :
    contentKind r = .other := by
  unfold contentKind
  split
  · rfl
  · rename_i v hv
    simp [h v hv]

/-- A response is of an HTML or XML kind exactly when its first content type is readable and
names one. -/
theorem contentKind_ne_other_iff (r : Response) :
    contentKind r ≠ .other ↔ ∃ v, r.header? "content-type" = some v ∧
      v.toList.all isVisibleAscii = true ∧ (htmlMime (mimeOf v) = true ∨ xmlMime (mimeOf v) = true) := by
  constructor
  · intro hk
    cases hc : r.header? "content-type" with
    | none => exact absurd (contentKind_of_not_visible (by simp [hc])) hk
    | some v =>
      cases hv : v.toList.all isVisibleAscii with
      | false =>
        refine absurd (contentKind_of_not_visible fun w hw => ?_) hk
        rw [hc] at hw
        cases hw
        exact hv
      | true =>
        rw [contentKind_of_visible hc hv] at hk
        refine ⟨v, rfl, hv, ?_⟩
        cases hh : htmlMime (mimeOf v) <;> cases hx : xmlMime (mimeOf v) <;> simp_all
  · rintro ⟨v, hc, hv, hm⟩
    rw [contentKind_of_visible hc hv]
    rcases hm with hm | hm
    · simp [hm]
    · cases hh : htmlMime (mimeOf v) <;> simp [hm]

/-- A response is read whole exactly when it does not pass before its body is read. -/
theorem passesUnread_eq_false_iff (isHead : Bool) (r : Response) :
    passesUnread isHead r = false ↔ ReadsWhole isHead r := by
  have hkind := contentKind_ne_other_iff r
  unfold passesUnread
  constructor
  · intro h
    simp only [Bool.or_eq_false_iff, beq_eq_false_iff_ne, Bool.not_eq_false', Bool.and_eq_true,
      decide_eq_true_eq, Option.isSome_eq_false_iff, Option.isNone_iff_eq_none, gt_iff_lt,
      decide_eq_false_iff_not, Nat.not_lt] at h
    obtain ⟨⟨⟨⟨⟨hhead, hk⟩, hstatus⟩, henc⟩, hstream⟩, hsize⟩ := h
    exact ⟨hhead, hstatus, hkind.mp hk, henc, hstream, hsize⟩
  · intro h
    obtain ⟨hhead, hstatus, htyped, henc, hstream, hsize⟩ := h
    simp only [Bool.or_eq_false_iff, beq_eq_false_iff_ne, Bool.not_eq_false', Bool.and_eq_true,
      decide_eq_true_eq, Option.isSome_eq_false_iff, Option.isNone_iff_eq_none, gt_iff_lt,
      decide_eq_false_iff_not, Nat.not_lt]
    exact ⟨⟨⟨⟨⟨hhead, hkind.mpr htyped⟩, hstatus⟩, henc⟩, hstream⟩, hsize⟩

/-- A page whose first content type is readable is eligible when that type names HTML, or names
XML and the page holds a partial response. -/
theorem eligibleText_eq {r : Response} {v : String} (h : r.header? "content-type" = some v)
    (hv : v.toList.all isVisibleAscii = true) (text : String) :
    eligibleText r text =
      (htmlMime (mimeOf v) || (xmlMime (mimeOf v) && containsText text partialResponseMarker)) := by
  unfold eligibleText
  rw [contentKind_of_visible h hv]
  cases htmlMime (mimeOf v) <;> cases xmlMime (mimeOf v) <;> rfl

/-- A body read without failing is sent as the response came. -/
theorem withBytes_eq_unchanged {r : Response} (h : r.kind ≠ .failing) :
    r.withBytes = r.unchanged := by
  simp [Response.withBytes, Response.unchanged, h]

/-- The check of every policy value decides `HeaderValuesValid`. -/
theorem all_headerValues_iff (hs : List (String × String)) :
    (hs.all fun x => x.snd.toList.all isHeaderValueChar) = true ↔ HeaderValuesValid hs := by
  simp [HeaderValuesValid]

/-- The step always answers, and its answer is one the contract allows. -/
theorem respond_answers (p : Processor) (isHead : Bool) (r : Response) (src : Source) :
    ∃ reply fin, (respond p isHead r).run src = (.ok reply, fin) ∧
      Answers p isHead r src reply fin := by
  unfold respond
  cases hpass : passesUnread isHead r
  · have hread := (passesUnread_eq_false_iff isHead r).mp hpass
    simp only [Bool.false_eq_true, if_false]
    by_cases hfail : r.kind = .failing
    · simp only [hfail, beq_self_eq_true, if_true]
      exact ⟨_, _, rfl, .emptied hread hfail⟩
    have hfull : r.kind = .full := by
      have := hread.sized.1
      cases hk : r.kind <;> simp_all
    have hread' : (r.kind == BodyKind.failing) = false := by rw [hfull]; rfl
    simp only [hread', Bool.false_eq_true, if_false]
    rw [withBytes_eq_unchanged hfail]
    cases hdec : String.fromUTF8? (ByteArray.mk r.body.toArray) with
    | none => exact ⟨_, _, rfl, .notText hread hfull hdec⟩
    | some text =>
      simp only
      rw [Draw.run_bind]
      obtain ⟨q, fin, hq⟩ := p.process_ok text.toList (eligibleText r text) src
      erw [hq]
      simp only
      by_cases hout : q.outcome = .hardened
      · by_cases hvalid : HeaderValuesValid q.headers
        · have hall := (all_headerValues_iff q.headers).mpr hvalid
          simp only [hout, bne_self_eq_false, Bool.false_eq_true, if_false, hall, Bool.not_true]
          exact ⟨_, _, rfl, .rewritten hread hfull hdec hq hout hvalid⟩
        · have hall : (q.headers.all fun x => x.snd.toList.all isHeaderValueChar) = false := by
            rw [← Bool.not_eq_true, all_headerValues_iff]
            exact hvalid
          simp only [hout, bne_self_eq_false, Bool.false_eq_true, if_false, hall, Bool.not_false,
            if_true]
          exact ⟨_, _, rfl, .declined hread hfull hdec hq fun h => hvalid h.2⟩
      · simp only [bne_iff_ne, ne_eq, hout, not_false_eq_true, if_true]
        exact ⟨_, _, rfl, .declined hread hfull hdec hq fun h => hout h.1⟩
  · simp only [if_true]
    refine ⟨_, _, rfl, .passes fun hw => ?_⟩
    rw [(passesUnread_eq_false_iff isHead r).mpr hw] at hpass
    cases hpass

/-- The contract relates a response and a source to one answer and one final source. -/
theorem Answers.unique {p : Processor} {isHead : Bool} {r : Response} {src : Source}
    {reply reply' : Reply} {fin fin' : Source} (h : Answers p isHead r src reply fin)
    (h' : Answers p isHead r src reply' fin') : reply = reply' ∧ fin = fin' := by
  cases h with
  | passes hn =>
    cases h' with
    | passes => exact ⟨rfl, rfl⟩
    | emptied hr => exact absurd hr hn
    | notText hr => exact absurd hr hn
    | declined hr => exact absurd hr hn
    | rewritten hr => exact absurd hr hn
  | emptied hr hk =>
    cases h' with
    | passes hn => exact absurd hr hn
    | emptied => exact ⟨rfl, rfl⟩
    | notText _ hk' => rw [hk] at hk'; cases hk'
    | declined _ hk' => rw [hk] at hk'; cases hk'
    | rewritten _ hk' => rw [hk] at hk'; cases hk'
  | notText hr hk hd =>
    cases h' with
    | passes hn => exact absurd hr hn
    | emptied _ hk' => rw [hk] at hk'; cases hk'
    | notText => exact ⟨rfl, rfl⟩
    | declined _ _ hd' => rw [hd] at hd'; cases hd'
    | rewritten _ _ hd' => rw [hd] at hd'; cases hd'
  | declined hr hk hd hq hno =>
    cases h' with
    | passes hn => exact absurd hr hn
    | emptied _ hk' => rw [hk] at hk'; cases hk'
    | notText _ _ hd' => rw [hd] at hd'; cases hd'
    | declined _ _ hd' hq' =>
      rw [hd] at hd'
      cases hd'
      rw [hq] at hq'
      cases hq'
      exact ⟨rfl, rfl⟩
    | rewritten _ _ hd' hq' hout hvalid =>
      rw [hd] at hd'
      cases hd'
      rw [hq] at hq'
      cases hq'
      exact absurd ⟨hout, hvalid⟩ hno
  | rewritten hr hk hd hq hout hvalid =>
    cases h' with
    | passes hn => exact absurd hr hn
    | emptied _ hk' => rw [hk] at hk'; cases hk'
    | notText _ _ hd' => rw [hd] at hd'; cases hd'
    | declined _ _ hd' hq' hno =>
      rw [hd] at hd'
      cases hd'
      rw [hq] at hq'
      cases hq'
      exact absurd ⟨hout, hvalid⟩ hno
    | rewritten _ _ hd' hq' =>
      rw [hd] at hd'
      cases hd'
      rw [hq] at hq'
      cases hq'
      exact ⟨rfl, rfl⟩

/-- Every answer the contract allows keeps the status of the response. -/
theorem Answers.status_eq {p : Processor} {isHead : Bool} {r : Response} {src fin : Source}
    {reply : Reply} (h : Answers p isHead r src reply fin) : reply.status = r.status := by
  cases h <;> rfl

/-- The step never stops and keeps the status, and its answers and final source are exactly the
ones the contract relates to the response. -/
theorem respond_contract (p : Processor) (isHead : Bool) (r : Response) (src : Source) :
    (∃ reply fin, (respond p isHead r).run src = (.ok reply, fin) ∧ reply.status = r.status) ∧
      ∀ reply fin, (respond p isHead r).run src = (.ok reply, fin) ↔
        Answers p isHead r src reply fin := by
  obtain ⟨reply, fin, hrun, hans⟩ := respond_answers p isHead r src
  refine ⟨⟨reply, fin, hrun, hans.status_eq⟩, fun reply' fin' => ⟨fun h => ?_, fun h => ?_⟩⟩
  · rw [hrun] at h
    cases h
    exact hans
  · obtain ⟨rfl, rfl⟩ := hans.unique h
    exact hrun

/-- A response whose content type is not visible ASCII passes unchanged and draws nothing, though
its type reads as HTML and the processor would harden its page. -/
theorem respond_passes_unreadable_type :
    mimeOf "text/html; charset=é" = "text/html" ∧
      (((⟨{}⟩ : Processor).process "<p>x</p>".toList true).run
          (.scripted ⟨[1, 2], .fails⟩)).1.toOption.map Processed.outcome = some .hardened ∧
      (respond ⟨{}⟩ false ⟨200, [("content-type", "text/html; charset=é")],
          "<p>x</p>".toUTF8.toList, .full⟩).run (.scripted ⟨[1, 2], .fails⟩) =
        (.ok ⟨200, [("content-type", "text/html; charset=é")], .bytes "<p>x</p>".toUTF8.toList⟩,
          .scripted ⟨[1, 2], .fails⟩) := by
  decide +kernel

end StrictCsp.Middleware
