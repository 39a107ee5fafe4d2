import StrictCsp.Policy.Budget
import StrictCsp.Policy.Harvest
import StrictCsp.Nonce

/-!
# Assembling the policies of a response

Two templates, one enforced and one report-only, become the policies of a
response. Each template is materialized: its nonce placeholder is replaced by
the nonce, then its event handler placeholder by the handler digests of the
page, then its inline style placeholder by the style digests, each step over
the result of the one before. When the hash algorithm is unknown the digest
lists are empty.

Then each policy is delivered. An empty one is left out; one that fits the
header budget goes in a header. Over budget, the enforced policy moves into a
meta element of the page (or is left out when the page has no head), and the
report-only policy is degraded and sent in its header anyway.

Main statements: the headers list the enforced policy before the report-only
one (`headers_of_header`), and the page only changes when the enforced policy
moves into it (`body_of_not_metaTag`).
-/

namespace StrictCsp.Policy

open StrictCsp.Text

/-- The enforced and the report-only policy templates. -/
structure Templates where
  /-- The template of the enforced policy. -/
  enforced : String
  /-- The template of the report-only policy. -/
  reportOnly : String
  deriving DecidableEq, Repr

/-- The nonce placeholder. -/
def noncePlaceholder : String := "\x7bnonce\x7d"

/-- The event handler hashes placeholder. -/
def handlerPlaceholder : String := "\x7beventhandlerhashes\x7d"

/-- The inline style hashes placeholder. -/
def stylePlaceholder : String := "\x7binlinestyleshashes\x7d"

/-- The template both policies use unless configured otherwise. -/
def defaultTemplate : String :=
  "script-src 'self' 'nonce-" ++ noncePlaceholder ++ "' 'unsafe-eval' 'unsafe-hashes' " ++
    handlerPlaceholder ++ " ; style-src 'unsafe-hashes' " ++ stylePlaceholder ++ " ;"

/-- Both templates are needed before a page is hardened: neither may be blank. -/
def Templates.isConfigured (t : Templates) : Bool :=
  !isBlankText t.enforced && !isBlankText t.reportOnly

/-- A template with its placeholders filled, nonce first, then handler and style hashes. -/
def materialize (template : String) (nonce : Nonce) (handlerHashes styleHashes : String) :
    String :=
  replaceText (replaceText (replaceText template noncePlaceholder nonce.text)
    handlerPlaceholder handlerHashes) stylePlaceholder styleHashes

/-- How the enforced policy reaches the browser. -/
inductive EnforcedDelivery where
  /-- In its header. -/
  | header (value : String)
  /-- Over budget, in a meta element of the page. -/
  | metaTag (value : String)
  /-- Empty, or over budget with no head to carry it. -/
  | omitted
  deriving DecidableEq, Repr

/-- How the report-only policy reaches the browser. -/
inductive ReportOnlyDelivery where
  /-- In its header. -/
  | header (value : String)
  /-- Over budget, degraded and in its header anyway. -/
  | degraded (value : String)
  /-- Empty. -/
  | omitted
  deriving DecidableEq, Repr

/-- A page with the policies that go with it. -/
structure Assembled where
  /-- The page, with the meta element when the enforced policy moved into it. -/
  body : List Char
  /-- The enforced policy's delivery. -/
  enforced : EnforcedDelivery
  /-- The report-only policy's delivery. -/
  reportOnly : ReportOnlyDelivery
  deriving DecidableEq, Repr

/-- The headers to set, as name and value, the enforced policy's first. -/
def Assembled.headers (a : Assembled) : List (String × String) :=
  let enforced := match a.enforced with
    | .header v => [(enforcedHeader, v)]
    | _ => []
  let reportOnly := match a.reportOnly with
    | .header v | .degraded v => [(reportOnlyHeader, v)]
    | .omitted => []
  enforced ++ reportOnly

/-- The settings of assembly: the header budget and the name of the hash algorithm. -/
structure Assembler where
  /-- The header budget in bytes. -/
  budget : Nat := defaultBudget
  /-- The name of the hash algorithm, read when policies are assembled. -/
  algorithm : String := "SHA256"
  deriving DecidableEq, Repr

namespace Assembler

/-- The enforced policy delivered, with the page that carries it. -/
def deliverEnforced (a : Assembler) (body : List Char) (policy : String) :
    List Char × EnforcedDelivery :=
  if policy.isEmpty then (body, .omitted)
  else if fitsHeader policy a.budget then (body, .header policy)
  else match injectMeta body policy with
    | some page => (page, .metaTag policy)
    | none => (body, .omitted)

/-- The report-only policy delivered. -/
def deliverReportOnly (a : Assembler) (policy : String) : ReportOnlyDelivery :=
  if policy.isEmpty then .omitted
  else if fitsHeader policy a.budget then .header policy
  else .degraded (degrade policy)

/-- The rendered digest lists of a page: handlers, then styles; empty for an unknown algorithm. -/
def hashLists (a : Assembler) (body : List Char) : String × String :=
  match HashAlgorithm.parse a.algorithm with
  | .ok alg => ((handlerDigests alg body).render, (styleDigests alg body).render)
  | .error _ => ("", "")

/-- The policies of a page, materialized and delivered. -/
def apply (a : Assembler) (body : List Char) (nonce : Nonce) (t : Templates) : Assembled :=
  let (handlers, styles) := a.hashLists body
  let enforced := materialize t.enforced nonce handlers styles
  let reportOnly := materialize t.reportOnly nonce handlers styles
  let (page, enforcedDelivery) := a.deliverEnforced body enforced
  { body := page, enforced := enforcedDelivery, reportOnly := a.deliverReportOnly reportOnly }

end Assembler

/-- The report-only policy of a page is its template materialized and delivered. -/
theorem Assembler.apply_reportOnly (a : Assembler) (body : List Char) (nonce : Nonce)
    (t : Templates) : (a.apply body nonce t).reportOnly =
      a.deliverReportOnly (materialize t.reportOnly nonce (a.hashLists body).1
        (a.hashLists body).2) := by
  unfold Assembler.apply
  cases a.hashLists body
  rfl

/-- A degraded delivery carries the degraded policy. -/
theorem Assembler.eq_degrade_of_deliverReportOnly {a : Assembler} {policy v : String}
    (h : a.deliverReportOnly policy = .degraded v) : v = degrade policy := by
  unfold Assembler.deliverReportOnly at h
  split at h
  · cases h
  · split at h
    · cases h
    · cases h
      rfl

/-- The page and the enforced policy's delivery come from delivering its materialized template. -/
theorem Assembler.apply_body_enforced (a : Assembler) (body : List Char) (nonce : Nonce)
    (t : Templates) : ((a.apply body nonce t).body, (a.apply body nonce t).enforced) =
      a.deliverEnforced body (materialize t.enforced nonce (a.hashLists body).1
        (a.hashLists body).2) := by
  unfold Assembler.apply
  cases a.hashLists body
  rfl

/-- An enforced policy delivered in a meta element stands right after the page's first head opening
tag. Only the branch that finds a head delivers a meta element. -/
theorem Assembler.apply_metaTag {a : Assembler} {body : List Char} {nonce : Nonce}
    {t : Templates} {v : String} (h : (a.apply body nonce t).enforced = .metaTag v) :
    ∃ pre tag, Recogniser.first? Markup.Pattern.headTag body = some (pre, tag, ()) ∧
      (a.apply body nonce t).body = pre ++ tag ++ metaElement v ++
        body.drop (pre.length + tag.length) := by
  have hpair := a.apply_body_enforced body nonce t
  rw [h] at hpair
  unfold Assembler.deliverEnforced at hpair
  split at hpair
  · cases (Prod.mk.inj hpair).2
  split at hpair
  · cases (Prod.mk.inj hpair).2
  split at hpair
  · rename_i page hinject
    obtain ⟨hbody, hv⟩ := Prod.mk.inj hpair
    cases hv
    obtain ⟨⟨pre, tag, u⟩, hfirst, hpage⟩ := Option.map_eq_some_iff.mp hinject
    exact ⟨pre, tag, hfirst, hbody.trans hpage.symm⟩
  · cases (Prod.mk.inj hpair).2

/-- The headers list the enforced policy before the report-only one. -/
theorem headers_of_header {a : Assembled} {e r : String} (he : a.enforced = .header e)
    (hr : a.reportOnly = .header r) :
    a.headers = [(enforcedHeader, e), (reportOnlyHeader, r)] := by
  simp [Assembled.headers, he, hr]

/-- The page only changes when the enforced policy moves into it. -/
theorem body_of_not_metaTag (a : Assembler) (body : List Char) (nonce : Nonce) (t : Templates)
    (h : ∀ v, (a.apply body nonce t).enforced ≠ .metaTag v) : (a.apply body nonce t).body = body := by
  simp only [Assembler.apply, Assembler.deliverEnforced] at h ⊢
  split at h <;> simp_all
  split at h <;> simp_all
  split at h <;> simp_all

end StrictCsp.Policy
