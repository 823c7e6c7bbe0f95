import ContractTemplates.Compile.Job
import ContractTemplates.Placeholder
import ContractTemplates.Template.Schema
import ContractTemplates.Variable.Form

namespace ContractTemplates

/-!
# Documents

A document is a stored template with its placeholders filled from a form,
compiled. Everything that can be wrong with the request is found before the
compiler is called: whether the template is there and may be compiled, whether
its schema can be read, and whether the form fits the schema. The compiler is
then called once, on the filled source.

The compiler is a parameter and may have effects of any kind.
-/

/-- Why the compiler makes no document of a source. -/
inductive CompilerFault where
  /-- The job of the compiler ends without a document. -/
  | job (fault : CompileFault)
  /-- The source holds half a character and cannot be handed to a job. -/
  | notText
  deriving DecidableEq, Repr

/-- What the compiler makes of a source. -/
abbrev CompileResult := Except CompilerFault Bytes

/-- What may be compiled, and how strictly forms are checked. -/
structure CompilePolicy where
  enforceRequired : Bool
  allowUnpublished : Bool
  deriving DecidableEq, Repr

/-- Why there is no document. -/
inductive DocumentFault where
  | notFound (id : Text)
  | badSchema (fault : SchemaFault)
  | badForm (problems : List FieldProblem)
  | notCompiled (fault : CompilerFault)
  deriving DecidableEq, Repr

/-- A filled source that is ready to be compiled. -/
structure DocumentDraft where
  title : RawText
  source : RawText
  deriving DecidableEq, Repr

/-- A compiled document with the name of its file. -/
structure Document where
  fileName : RawText
  content : Bytes
  deriving DecidableEq, Repr

/-- The message about a template that is not there. -/
def notFoundText (id : Text) : Text :=
  "Template '".toList ++ id ++ "' not found".toList

namespace DocumentDraft

/-- The template with an id, if it may be compiled. -/
def permitted? (policy : CompilePolicy) (store : Store) (id : Text) :
    Option TemplateRow :=
  (store.find? id).filter fun row =>
    row.isPublished || policy.allowUnpublished

/-- The source of a template, filled from a form. -/
def prepare
    (policy : CompilePolicy)
    (store : Store)
    (id : Text)
    (form : Form) :
    Except DocumentFault DocumentDraft :=
  match permitted? policy store id with
  | none => .error (.notFound id)
  | some row =>
      match Schema.read row.schema with
      | .error fault => .error (.badSchema fault)
      | .ok definitions =>
          match form.resolve policy.enforceRequired definitions with
          | .error problems => .error (.badForm problems)
          | .ok values =>
              .ok {
                title := row.title
                source := substitute row.source (Entries.find? values) }

/-- The document that the compiler has made, or why it has made none. -/
def finish (draft : DocumentDraft) :
    CompileResult → Except DocumentFault Document
  | .ok content => .ok ⟨draft.title ++ ".pdf".toList, content⟩
  | .error fault => .error (.notCompiled fault)

end DocumentDraft

/-- Fills and compiles a stored template. -/
def Document.make
    {m : Type → Type}
    [Monad m]
    (compile : RawText → m CompileResult)
    (policy : CompilePolicy)
    (store : Store)
    (id : Text)
    (form : Form) :
    m (Except DocumentFault Document) :=
  match DocumentDraft.prepare policy store id form with
  | .error fault => pure (.error fault)
  | .ok draft => do
      let result ← compile draft.source
      pure (draft.finish result)

end ContractTemplates
