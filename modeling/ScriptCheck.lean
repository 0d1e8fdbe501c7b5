import ScriptCheck.Annotate.Program
import ScriptCheck.NameTable.Lemmas
import ScriptCheck.Proofs.Rules
import ScriptCheck.Tree.Equality
import ScriptCheck.Proofs.Session
import ScriptCheck.Proofs.Violations
import ScriptCheck.Proofs.Strictness
import ScriptCheck.Proofs.Consistency
import ScriptCheck.Proofs.Relevance
import ScriptCheck.Proofs.Renaming
import ScriptCheck.Proofs.Extension
import ScriptCheck.Proofs.Edits
import ScriptCheck.Proofs.Failures
import ScriptCheck.Proofs.Diagnostics
import ScriptCheck.Proofs.Words
import ScriptCheck.Proofs.Legibility
import ScriptCheck.Proofs.Layout
import ScriptCheck.Proofs.Duplicates
import ScriptCheck.Proofs.Incremental
import ScriptCheck.Proofs.Scoping
import ScriptCheck.Proofs.Deletion
import ScriptCheck.Proofs.Lockstep
import ScriptCheck.Proofs.Replacement
import ScriptCheck.Proofs.Indentation
import ScriptCheck.Proofs.Histories
