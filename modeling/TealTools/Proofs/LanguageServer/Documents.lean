import Mathlib.Data.List.Induction
import TealTools.LanguageServer.Server
import TealTools.Proofs.Entries

/-!
# Diagnostics follow the remembered texts

An editor opens, changes, saves and closes documents in any order.  The text
of a document is the latest one that came since the document was closed, and
what was last published for a document are the diagnostics of this text.
-/

namespace TealTools.LanguageServer

namespace DocumentEvent

/-- The text that an event carries; of several changes the last one counts. -/
def carried? : DocumentEvent → Option String
  | opened _ _ text => some text
  | changed _ _ texts => texts.getLast?
  | saved _ text => text
  | closed _ => none

def closes : DocumentEvent → Bool
  | closed _ => true
  | _ => false

/-- The event neither carries a text of the document nor closes it. -/
def Spares (event : DocumentEvent) (uri : String) : Prop :=
  event.uri = uri → event.carried? = none ∧ event.closes = false

theorem carried?_of_closes {event : DocumentEvent}
    (closes : event.closes = true) : event.carried? = none := by
  cases event with
  | closed uri => rfl
  | _ => cases closes

end DocumentEvent

/-- A text of the document came, and since then neither another one nor the
end of the document. -/
def LatestText (uri : String) (history : List DocumentEvent)
    (text : String) : Prop :=
  ∃ earlier event later, history = earlier ++ event :: later ∧
    event.uri = uri ∧ event.carried? = some text ∧
    ∀ other ∈ later, other.Spares uri

section

variable {uri text : String} {history : List DocumentEvent}
  {event : DocumentEvent}

private theorem not_latestText_nil : ¬LatestText uri [] text := by
  rintro ⟨earlier, event, later, whole, -⟩
  exact List.append_ne_nil_of_right_ne_nil earlier (List.cons_ne_nil _ _)
    whole.symm

theorem latestText_concat_iff :
    LatestText uri (history ++ [event]) text ↔
      event.uri = uri ∧ event.carried? = some text ∨
        event.Spares uri ∧ LatestText uri history text := by
  constructor
  · rintro ⟨earlier, carrier, later, whole, about, carried, spared⟩
    rcases List.eq_nil_or_concat later with rfl | ⟨before, last, rfl⟩
    · obtain ⟨-, same⟩ := List.append_inj' whole rfl
      cases same
      exact .inl ⟨about, carried⟩
    · rw [List.concat_eq_append, ← List.cons_append, ← List.append_assoc]
        at whole
      obtain ⟨front, same⟩ := List.append_inj' whole rfl
      cases same
      rw [List.concat_eq_append] at spared
      refine .inr ⟨?_, earlier, carrier, before, front, about, carried, ?_⟩
      · exact spared event (List.mem_append_right _ List.mem_cons_self)
      · intro other member
        exact spared other (List.mem_append_left _ member)
  · rintro (⟨about, carried⟩ |
      ⟨spares, earlier, carrier, later, rfl, about, carried, spared⟩)
    · exact ⟨history, event, [], rfl, about, carried,
        fun _ none => nomatch none⟩
    · refine ⟨earlier, carrier, later ++ [event], ?_, about, carried, ?_⟩
      · rw [List.append_assoc, List.cons_append]
      · intro other member
        rcases List.mem_append.mp member with listed | last
        · exact spared other listed
        · rw [List.mem_singleton.mp last]
          exact spares

end

namespace Documents

/-! ## One event -/

section

variable {documents : Documents} {diagnose : String → List Diagnostic}

@[simp] theorem get?_erase (uri other : String) :
    (documents.erase uri).get? other =
      if other = uri then none else documents.get? other := by
  rw [get?, erase, Entries.lookup_filter_ne, get?]

@[simp] theorem get?_insert (uri text other : String) :
    (documents.insert uri text).get? other =
      if other = uri then some text else documents.get? other := by
  rw [get?, insert, Entries.lookup_cons]
  by_cases same : other = uri
  · rw [if_pos same, if_pos same]
  · have kept := documents.get?_erase uri other
    rw [if_neg same] at kept
    rw [if_neg same, if_neg same]
    exact kept

/-- An event settles the text of its document and no other one. -/
theorem get?_handle (event : DocumentEvent) (uri : String) :
    (documents.handle diagnose event).1.get? uri =
      if event.uri = uri then
        if event.closes then none
        else event.carried? <|> documents.get? uri
      else documents.get? uri := by
  have inserted : ∀ key text, (documents.insert key text).get? uri =
      if key = uri then some text else documents.get? uri := by
    intro key text
    rw [get?_insert]
    simp only [eq_comm]
  cases event with
  | opened key version text => exact inserted key text
  | changed key version texts =>
      cases latest : texts.getLast? with
      | none =>
          simp [handle, latest, DocumentEvent.closes,
            DocumentEvent.carried?]
      | some text =>
          simp only [handle, latest, DocumentEvent.closes,
            DocumentEvent.carried?]
          exact inserted key text
  | saved key text =>
      cases text with
      | none =>
          simp [handle, DocumentEvent.closes, DocumentEvent.carried?]
      | some text => exact inserted key text
  | closed key =>
      rw [handle, get?_erase]
      simp only [eq_comm, DocumentEvent.uri, DocumentEvent.closes, if_true]

/-- What is published for an event are the diagnostics of the text that its
document has then. -/
private theorem published_handle
    {event : DocumentEvent} {publication : Publication}
    (published : (documents.handle diagnose event).2 = some publication) :
    publication.uri = event.uri ∧
      publication.diagnostics =
        ((documents.handle diagnose event).1.get? event.uri).elim []
          diagnose := by
  rw [get?_handle, if_pos rfl]
  cases event with
  | opened key version text =>
      cases published
      exact ⟨rfl, rfl⟩
  | changed key version texts =>
      cases latest : texts.getLast? with
      | none =>
          simp only [handle, latest] at published
          cases published
      | some text =>
          simp only [handle, latest] at published
          cases published
          refine ⟨rfl, ?_⟩
          simp [DocumentEvent.closes, DocumentEvent.carried?, latest]
  | saved key text =>
      cases text with
      | none =>
          obtain ⟨text, remembered, rfl⟩ := Option.map_eq_some_iff.mp published
          refine ⟨rfl, ?_⟩
          simp [DocumentEvent.closes, DocumentEvent.carried?,
            DocumentEvent.uri, remembered]
      | some text =>
          cases published
          exact ⟨rfl, rfl⟩
  | closed key =>
      cases published
      exact ⟨rfl, rfl⟩

private theorem handle_of_unpublished {event : DocumentEvent}
    (unpublished : (documents.handle diagnose event).2 = none) :
    (documents.handle diagnose event).1 = documents := by
  cases event with
  | opened key version text => cases unpublished
  | changed key version texts =>
      cases latest : texts.getLast? with
      | none => simp only [handle, latest]
      | some text =>
          simp only [handle, latest] at unpublished
          cases unpublished
  | saved key text =>
      cases text with
      | none => rfl
      | some text => cases unpublished
  | closed key => cases unpublished

end

/-! ## Every history -/

/-- The documents behind events that are handled one after the other. -/
def after (diagnose : String → List Diagnostic) (documents : Documents) :
    List DocumentEvent → Documents
  | [] => documents
  | event :: events =>
    after diagnose (documents.handle diagnose event).1 events

def published (diagnose : String → List Diagnostic) (documents : Documents) :
    List DocumentEvent → List Publication
  | [] => []
  | event :: events =>
    (documents.handle diagnose event).2.toList ++
      published diagnose (documents.handle diagnose event).1 events

end Documents

def publishedFor (uri : String) (publications : List Publication) :
    List Publication :=
  publications.filter fun publication => publication.uri = uri

theorem publishedFor_concat (uri : String) (publications : List Publication)
    (publication : Publication) :
    publishedFor uri (publications ++ [publication]) =
      publishedFor uri publications ++
        if publication.uri = uri then [publication] else [] := by
  rw [publishedFor, List.filter_append]
  by_cases same : publication.uri = uri
  · rw [if_pos same, List.filter_cons_of_pos (by simp [same])]
    rfl
  · rw [if_neg same, List.filter_cons_of_neg (by simp [same])]
    rfl

namespace Documents

section

variable {documents : Documents} {diagnose : String → List Diagnostic}
  {history : List DocumentEvent} {event : DocumentEvent}

theorem after_concat :
    documents.after diagnose (history ++ [event]) =
      ((documents.after diagnose history).handle diagnose event).1 := by
  induction history generalizing documents with
  | nil => rfl
  | cons first history induction => exact induction

theorem published_concat :
    documents.published diagnose (history ++ [event]) =
      documents.published diagnose history ++
        ((documents.after diagnose history).handle diagnose
          event).2.toList := by
  induction history generalizing documents with
  | nil => exact List.append_nil _
  | cons first history induction =>
      rw [List.cons_append, published, published, induction,
        List.append_assoc, after]

theorem get?_after_iff {uri text : String} :
    (Documents.empty.after diagnose history).get? uri = some text ↔
      LatestText uri history text := by
  induction history using List.reverseRecOn with
  | nil =>
      constructor
      · intro remembered
        cases remembered
      · exact fun latest => absurd latest not_latestText_nil
  | append_singleton history event induction =>
      rw [after_concat, get?_handle, latestText_concat_iff, ← induction]
      by_cases about : event.uri = uri
      · rw [if_pos about]
        by_cases closes : event.closes = true
        · simp [about, closes, DocumentEvent.carried?_of_closes closes,
            DocumentEvent.Spares]
        · cases carried : event.carried? with
          | none => simp [about, closes, carried, DocumentEvent.Spares]
          | some latest => simp [about, closes, carried, DocumentEvent.Spares]
      · have spares : event.Spares uri := fun same => absurd same about
        simp [about, spares]

/-- Publications agree with the remembered texts: the last one for a document
shows the diagnostics of its text, or nothing once there is no text. -/
structure Agrees (diagnose : String → List Diagnostic)
    (documents : Documents) (publications : List Publication) : Prop where
  shows : ∀ uri publication,
    (publishedFor uri publications).getLast? = some publication →
      publication.diagnostics = (documents.get? uri).elim [] diagnose
  covers : ∀ uri text, documents.get? uri = some text →
    publishedFor uri publications ≠ []

theorem agrees_nothing : Documents.empty.Agrees diagnose [] := by
  constructor
  · intro uri publication last
    cases last
  · intro uri text remembered
    cases remembered

theorem Agrees.handle {publications : List Publication}
    (agrees : documents.Agrees diagnose publications)
    (event : DocumentEvent) :
    (documents.handle diagnose event).1.Agrees diagnose
      (publications ++ (documents.handle diagnose event).2.toList) := by
  cases published : (documents.handle diagnose event).2 with
  | none =>
      rw [handle_of_unpublished published, Option.toList_none,
        List.append_nil]
      exact agrees
  | some publication =>
      obtain ⟨about, shown⟩ := published_handle published
      rw [Option.toList_some]
      constructor
      · intro uri last found
        rw [publishedFor_concat] at found
        by_cases same : publication.uri = uri
        · rw [if_pos same, List.getLast?_concat] at found
          cases found
          rw [← same, about]
          exact shown
        · rw [if_neg same, List.append_nil] at found
          rw [get?_handle, if_neg (about ▸ same)]
          exact agrees.shows uri last found
      · intro uri text remembered
        rw [publishedFor_concat]
        by_cases same : publication.uri = uri
        · simp [same]
        · rw [get?_handle, if_neg (about ▸ same)] at remembered
          rw [if_neg same, List.append_nil]
          exact agrees.covers uri text remembered

theorem agrees_after (history : List DocumentEvent) :
    (Documents.empty.after diagnose history).Agrees diagnose
      (Documents.empty.published diagnose history) := by
  induction history using List.reverseRecOn with
  | nil => exact agrees_nothing
  | append_singleton history event induction =>
      rw [after_concat, published_concat]
      exact induction.handle event

/-- An event is of no concern to other documents. -/
theorem frame_concat {uri : String} (other : event.uri ≠ uri) :
    (documents.after diagnose (history ++ [event])).get? uri =
        (documents.after diagnose history).get? uri ∧
      publishedFor uri (documents.published diagnose (history ++ [event])) =
        publishedFor uri (documents.published diagnose history) := by
  rw [after_concat, get?_handle, if_neg other, published_concat]
  refine ⟨rfl, ?_⟩
  cases published :
      ((documents.after diagnose history).handle diagnose event).2 with
  | none => rw [Option.toList_none, List.append_nil]
  | some publication =>
      have about := (published_handle published).1
      rw [Option.toList_some, publishedFor_concat, if_neg (about ▸ other),
        List.append_nil]

end

end Documents

/-! ## The server -/

/-- A server takes in events one by one, and sends what is published. -/
theorem Server.performAll_documents (server : Server)
    (history : List DocumentEvent) :
    server.performAll []
        (history.map fun event => .plain (.document event)) =
      ({ server with
          documents := server.documents.after server.diagnose history },
        (server.documents.published server.diagnose history).map
          publicationMessage) := by
  induction history generalizing server with
  | nil => rfl
  | cons event history induction =>
      have first : server.perform (.document event) =
          ({ server with
              documents :=
                (server.documents.handle server.diagnose event).1 },
            (server.documents.handle server.diagnose event).2.toList.map
              publicationMessage) := rfl
      have later := induction { server with
        documents := (server.documents.handle server.diagnose event).1 }
      simp only [Task.plain] at later
      simp only [List.map_cons, Task.plain, performAll, first, later,
        Documents.after, Documents.published, List.map_append]

/-- A server takes in what an editor tells about its documents event by
event, and sends nothing but what is published for them.  For a server that
starts without documents, the text of each is the latest that came since it
was closed, and the diagnostics last published for it are those of this text,
or none once it has no text.  An event of one document changes and publishes
nothing for the others. -/
theorem diagnostics_follow_documents (diagnose : String → List Diagnostic)
    (history : List DocumentEvent) :
    (∀ server : Server,
      server.performAll []
          (history.map fun event => .plain (.document event)) =
        ({ server with
            documents := server.documents.after server.diagnose history },
          (server.documents.published server.diagnose history).map
            Server.publicationMessage)) ∧
      (Server.fresh diagnose).documents = Documents.empty ∧
      (Server.fresh diagnose).diagnose = diagnose ∧
      (∀ uri text,
        (Documents.empty.after diagnose history).get? uri = some text ↔
          LatestText uri history text) ∧
      (∀ uri text,
        (Documents.empty.after diagnose history).get? uri = some text →
          ∃ publication,
            (publishedFor uri
                (Documents.empty.published diagnose history)).getLast? =
              some publication ∧
            publication.diagnostics = diagnose text) ∧
      (∀ uri publication,
        (Documents.empty.after diagnose history).get? uri = none →
        (publishedFor uri
            (Documents.empty.published diagnose history)).getLast? =
          some publication →
        publication.diagnostics = []) ∧
      ∀ uri event, event.uri ≠ uri →
        (Documents.empty.after diagnose (history ++ [event])).get? uri =
            (Documents.empty.after diagnose history).get? uri ∧
          publishedFor uri
              (Documents.empty.published diagnose (history ++ [event])) =
            publishedFor uri (Documents.empty.published diagnose history) := by
  have agrees := @Documents.agrees_after diagnose history
  refine ⟨fun server => server.performAll_documents history, rfl, rfl, ?_, ?_,
    ?_, ?_⟩
  · intro uri text
    exact Documents.get?_after_iff
  · intro uri text remembered
    have covered := agrees.covers uri text remembered
    have last := List.getLast?_eq_some_getLast covered
    refine ⟨_, last, ?_⟩
    rw [agrees.shows uri _ last, remembered, Option.elim_some]
  · intro uri publication forgotten last
    rw [agrees.shows uri publication last, forgotten, Option.elim_none]
  · intro uri event other
    exact Documents.frame_concat other

end TealTools.LanguageServer
