import PipelineServer.Protocol.Shape

/-!
What a client can say about its abilities.

The server uses none of them, but a request to start it is only understood if they have the right
shape.
-/

namespace PipelineServer.Capabilities

open Shape

/-- A field that must be there. -/
def must (name : String) (shape : Shape) : Field := ⟨name, .required, shape⟩

/-- A field that may be left out of an object. -/
def may (name : String) (shape : Shape) : Field := ⟨name, .optional, shape⟩

/-- Fields that say whether the client can do something. -/
def flags (names : List String) : List Field := names.map fun name => may name flag

/-- Whether the client can be told later to do something. -/
def registration : Field := may "dynamicRegistration" flag

/-- An ability that has no parts, except that it may be asked for later. -/
def registered : Shape := record [registration]

/-- Properties that the client asks for when they are needed. -/
def resolved : Shape := record [must "properties" (list text)]

/-- Formats of text that people read. -/
def markupKinds : Shape := list (word ["plaintext", "markdown"])

/-- Known kinds of a thing, by number. -/
def kinds : Shape := record [may "valueSet" (list signed)]

/-- Known tags, by number; a truth value stands for no tags. -/
def tagSupport : Field :=
  ⟨"tagSupport", .defaulted, flag.or (record [must "valueSet" (list signed)])⟩

/-- A group of answers that the server can ask the client to fetch anew. -/
def refreshed : Shape := record [may "refreshSupport" flag]

def workspaceEdit : Shape :=
  record [may "documentChanges" flag,
    may "resourceOperations" (list (word ["create", "rename", "delete"])),
    may "failureHandling" (word ["abort", "transactional", "textOnlyTransactional", "undo"]),
    may "normalizesLineEndings" flag,
    may "changeAnnotationSupport" (record [may "groupsOnLabel" flag])]

def workspaceSymbol : Shape :=
  record [registration, may "symbolKind" kinds, tagSupport, may "resolveSupport" resolved]

def fileOperations : Shape :=
  record (registration ::
    flags ["didCreate", "willCreate", "didRename", "willRename", "didDelete", "willDelete"])

def workspace : Shape :=
  record [may "applyEdit" flag,
    may "workspaceEdit" workspaceEdit,
    may "didChangeConfiguration" registered,
    may "didChangeWatchedFiles" (record [registration, may "relativePatternSupport" flag]),
    may "symbol" workspaceSymbol,
    may "executeCommand" registered,
    may "workspaceFolders" flag,
    may "configuration" flag,
    may "semanticTokens" refreshed,
    may "codeLens" refreshed,
    may "fileOperations" fileOperations,
    may "inlineValue" refreshed,
    may "inlayHint" refreshed,
    may "diagnostic" refreshed]

def synchronization : Shape :=
  record (registration :: flags ["willSave", "willSaveWaitUntil", "didSave"])

def completionItem : Shape :=
  record [may "snippetSupport" flag,
    may "commitCharactersSupport" flag,
    may "documentationFormat" markupKinds,
    may "deprecatedSupport" flag,
    may "preselectSupport" flag,
    tagSupport,
    may "insertReplaceSupport" flag,
    may "resolveSupport" resolved,
    may "insertTextModeSupport" (record [must "valueSet" (list signed)]),
    may "labelDetailsSupport" flag]

def completion : Shape :=
  record [registration,
    may "completionItem" completionItem,
    may "completionItemKind" kinds,
    may "contextSupport" flag,
    may "insertTextMode" signed,
    may "completionList" (record [may "itemDefaults" (list text)])]

def hover : Shape := record [registration, may "contentFormat" markupKinds]

def signatureInformation : Shape :=
  record [may "documentationFormat" markupKinds,
    may "parameterInformation" (record [may "labelOffsetSupport" flag]),
    may "activeParameterSupport" flag]

def signatureHelp : Shape :=
  record [registration, may "signatureInformation" signatureInformation,
    may "contextSupport" flag]

def documentSymbol : Shape :=
  record [registration, may "symbolKind" kinds, may "hierarchicalDocumentSymbolSupport" flag,
    tagSupport]

/-- Going from a name to another place. -/
def goto : Shape := record [registration, may "linkSupport" flag]

def codeAction : Shape :=
  record [registration,
    may "codeActionLiteralSupport"
      (record [must "codeActionKind" (record [must "valueSet" (list text)])]),
    may "isPreferredSupport" flag,
    may "disabledSupport" flag,
    may "dataSupport" flag,
    may "resolveSupport" resolved,
    may "honorsChangeAnnotations" flag]

def documentLink : Shape := record [registration, may "tooltipSupport" flag]

def rename : Shape :=
  record [registration, may "prepareSupport" flag, may "prepareSupportDefaultBehavior" signed,
    may "honorsChangeAnnotations" flag]

def publishDiagnostics : Shape :=
  record ([may "relatedInformation" flag, tagSupport] ++
    flags ["versionSupport", "codeDescriptionSupport", "dataSupport"])

def foldingRange : Shape :=
  record [registration,
    may "rangeLimit" count,
    may "lineFoldingOnly" flag,
    may "foldingRangeKind"
      (record [may "valueSet" (list (word ["comment", "imports", "region"]))]),
    may "foldingRange" (record [may "collapsedText" flag])]

/-- Which kinds of requests for tokens the client makes. -/
def tokenRequests : Shape :=
  record [may "range" flag, may "full" (flag.or (namedRecord [may "delta" flag]))]

def semanticTokens : Shape :=
  record ([registration,
    must "requests" tokenRequests,
    must "tokenTypes" (list text),
    must "tokenModifiers" (list text),
    must "formats" (list (word ["relative"]))] ++
    flags ["overlappingTokenSupport", "multilineTokenSupport", "serverCancelSupport",
      "augmentsSyntaxTokens"])

def inlayHint : Shape := record [registration, may "resolveSupport" resolved]

def textDocument : Shape :=
  record [may "synchronization" synchronization,
    may "completion" completion,
    may "hover" hover,
    may "signatureHelp" signatureHelp,
    may "references" registered,
    may "documentHighlight" registered,
    may "documentSymbol" documentSymbol,
    may "formatting" registered,
    may "rangeFormatting" registered,
    may "onTypeFormatting" registered,
    may "declaration" goto,
    may "definition" goto,
    may "typeDefinition" goto,
    may "implementation" goto,
    may "codeAction" codeAction,
    may "codeLens" registered,
    may "documentLink" documentLink,
    may "colorProvider" registered,
    may "rename" rename,
    may "publishDiagnostics" publishDiagnostics,
    may "foldingRange" foldingRange,
    may "selectionRange" registered,
    may "linkedEditingRange" registered,
    may "callHierarchy" registered,
    may "semanticTokens" semanticTokens,
    may "moniker" registered,
    may "typeHierarchy" registered,
    may "inlineValue" registered,
    may "inlayHint" inlayHint,
    may "diagnostic" (record [registration, may "relatedDocumentSupport" flag])]

def window : Shape :=
  record [may "workDoneProgress" flag,
    may "showMessage"
      (record [may "messageActionItem" (record [may "additionalPropertiesSupport" flag])]),
    may "showDocument" (record [must "support" flag])]

def general : Shape :=
  record [may "regularExpressions" (record [must "engine" text, may "version" text]),
    may "markdown"
      (record [must "parser" text, may "version" text, may "allowedTags" (list text)]),
    may "staleRequestSupport"
      (record [must "cancel" flag, must "retryOnContentModified" (list text)]),
    may "positionEncodings" (list text)]

/-- All that a client can say. -/
def client : Shape :=
  record [may "workspace" workspace,
    may "textDocument" textDocument,
    may "window" window,
    may "general" general,
    may "experimental" any]

end PipelineServer.Capabilities
