import DeclaredDebt.CSharp.Rule

/-!
# The grammar of C#

A rule for each kind of thing a C# source is made of. The grammar is there to find attributes: it
follows the language wherever that decides what is an attribute, an attribute's name or one of its
arguments, and it does not tell operators of different precedence apart.

Where the language needs to look further ahead, small tests on the tokens to come decide: whether
parentheses belong to a lambda, whether a type in parentheses is a cast, and whether a list in
angle brackets holds type arguments.
-/

namespace DeclaredDebt.CSharp

/-- The symbols of the grammar. -/
inductive Symbol where
  | compilationUnit | topItem | usingDirective | namespaceDeclaration | globalAttribute
  | attributeList | attributeItem | attribute | attributeArgument
  | declaration | modifier | firmModifier | declarationBody | typeHead | typeBody | members
  | memberItem | typedMember | memberName | enumMember | accessors | functionBody | initialized
  | parameters | parameter | typeParameters | constraint | declarators | declarator
  | typeName | plainType | bareType | typeBase | tupleType | functionPointer | name | nameSegment
  | typeArguments
  | expression | operation | operationTail | operand | guard | guardTail | unary | cast | access
  | accessTail | primary | template | creation | initializer | initializerElement | arguments
  | argumentsInBrackets | argument | tupleElement | lambda | lambdaParameters | lambdaParameter
  | query | queryClause | switchArm | expressionBranches
  | pattern | patternUnary | patternPrimary | subpatterns | propertyPatterns | designation
  | constantPattern
  | block | statement | localFunction | localDeclaration | switchItem | usingStatement

/-! ## Looking ahead -/

/-- Whether a token opens a bracket or a hole. -/
def Token.opens (t : Token) : Bool :=
  t.kind == .holeStart || (t.kind == .symbol && t.isOneOf ["(", "[", "\x7b"])

/-- Whether a token closes a bracket or a hole. -/
def Token.closes (t : Token) : Bool :=
  t.kind == .holeEnd || (t.kind == .symbol && t.isOneOf [")", "]", "\x7d"])

/-- The tokens behind the bracket that closes so many open ones. -/
def behindGroup? : Nat → List Token → Option (List Token)
  | _, [] => none
  | depth, t :: rest =>
    if t.opens then behindGroup? (depth + 1) rest
    else if t.closes then
      match depth with
      | 0 => none
      | 1 => some rest
      | depth + 1 => behindGroup? depth rest
    else
      match depth with
      | 0 => none
      | depth => behindGroup? depth rest

/-- Whether the tokens start with one that passes a test. -/
def firstIs (p : Token → Bool) : List Token → Bool
  | t :: _ => p t
  | [] => false

/-- Whether a group in brackets comes, and an arrow behind it. -/
def groupThenArrow (ts : List Token) : Bool :=
  match behindGroup? 0 ts with
  | some rest => firstIs (·.isSymbol "=>") rest
  | none => false

/-- The tokens behind all groups in square brackets at the start, up to so many. -/
def behindSquares : Nat → List Token → List Token
  | 0, ts => ts
  | n + 1, ts =>
    if firstIs (·.isSymbol "[") ts then
      match behindGroup? 0 ts with
      | some rest => behindSquares n rest
      | none => ts
    else ts

/-- Whether groups in square brackets can be the attributes of a lambda: what comes behind them can
start its parameters or its return type. -/
def squaresThenLambda (ts : List Token) : Bool :=
  firstIs (·.isSymbol "[") ts &&
    firstIs (fun t => t.kind == .word || t.isSymbol "(") (behindSquares ts.length ts)

/-- Whether an index behind a question mark is an access and not the branch of a choice. -/
def indexWithoutColon (ts : List Token) : Bool :=
  match behindGroup? 0 ts with
  | some rest => !firstIs (·.isSymbol ":") rest
  | none => false

/-- The words that come behind an operand in a query, a pattern or an operation. -/
def followingWords : List String :=
  ["and", "ascending", "by", "descending", "equals", "from", "group", "into", "join", "let", "on",
   "or", "orderby", "select", "when", "where", "with"]

/-- The reserved words that an operand can start with. -/
def operandWords : List String :=
  ["base", "bool", "byte", "char", "checked", "decimal", "default", "delegate", "double", "false",
   "float", "int", "long", "new", "null", "object", "sbyte", "short", "sizeof", "stackalloc",
   "static", "string", "this", "throw", "true", "typeof", "uint", "ulong", "unchecked", "ushort"]

/-- The predefined types. -/
def predefinedTypes : List String :=
  ["bool", "byte", "char", "decimal", "double", "float", "int", "long", "object", "sbyte", "short",
   "string", "uint", "ulong", "ushort", "void"]

/-- Whether a token can start the operand of a cast, whatever the type. -/
def startsOperand (t : Token) : Bool :=
  match t.kind with
  | .word => (t.isIdentifier && !t.isOneOf followingWords) || t.isOneOf operandWords
  | .symbol => t.isOneOf ["(", "~", "!"]
  | .integer => true
  | .real => true
  | .character => true
  | .string => true
  | .templateStart => true
  | .branch => true
  | _ => false

/-- Whether a token can follow a list of type arguments in an expression. -/
def followsTypeArguments (ts : List Token) : Bool :=
  match ts with
  | [] => true
  | t :: _ =>
    match t.kind with
    | .symbol =>
      t.isOneOf ["(", ")", "[", "]", "\x7b", "\x7d", ":", ";", ",", ".", "?", "==", "!=", "|", "^",
        "&&", "||", "&", ">", ">=", "=>", "::", "!", "=", "??"]
    | .word => t.isOneOf (followingWords ++ ["is", "as", "in", "switch"])
    | .holeEnd => true
    | .formatText => true
    | .lineEnd => true
    | .branch => true
    | _ => false

/-- Whether a question mark behind a type makes it nullable: nothing follows that could be the
first branch of a choice. -/
def endsNullable (ts : List Token) : Bool :=
  match ts with
  | [] => true
  | t :: _ =>
    match t.kind with
    | .symbol =>
      t.isOneOf [")", "]", "\x7d", ",", ";", ":", "&&", "||", "??", "=", "==", "!=", "=>", ">", "?"]
    | .word => t.isOneOf followingWords
    | .holeEnd => true
    | .formatText => true
    | _ => false

/-- Whether a type in a pattern stands alone. -/
def endsTypePattern (ts : List Token) : Bool :=
  match ts with
  | [] => true
  | t :: _ =>
    match t.kind with
    | .symbol =>
      t.isOneOf [")", "]", "\x7d", ",", ";", ":", "&&", "||", "??", "=", "==", "!=", "=>", ">", "?",
        "|", "&", "^"]
    | .word => t.isOneOf (followingWords ++ ["is", "as"])
    | .holeEnd => true
    | .formatText => true
    | .branch => true
    | _ => false

/-! ## Parts shared by the rules -/

open Rule

/-- The rule of a symbol. -/
def use (s : Symbol) : Rule Symbol := .call s

/-- Parts of a source between `#if`, `#elif`, `#else` and `#endif`. -/
def branches (content : Rule Symbol) : Rule Symbol :=
  let condition : Rule Symbol :=
    .seq (.many (.seq (.absent (.token (.kind .lineEnd))) (.token .any))) (.token (.kind .lineEnd))
  all [.token (.branch "if"), condition, content,
    .many (all [.token (.branch "elif"), condition, content]),
    opt (.seq (.token (.branch "else")) content), .token (.branch "endif")]

/-- The lists of attributes before something. -/
def attributes : Rule Symbol := .many (use .attributeItem)

/-- A list in braces whose last element may have a comma behind it. -/
def braced (a : Rule Symbol) : Rule Symbol :=
  between "\x7b" (opt (.seq (commas a) (opt (t ",")))) "\x7d"

/-- The rank of an array: square brackets with only commas between them. -/
def rank : Rule Symbol := between "[" (.many (t ",")) "]"

/-- Type arguments in an expression. -/
def typeArgumentsInExpression : Rule Symbol :=
  .seq (use .typeArguments) (.check followsTypeArguments)

/-- An expression in parentheses, as statements have it. -/
def condition : Rule Symbol := between "(" (use .expression) ")"

/-- Operators between two operands. -/
def binaryOperator : Rule Symbol :=
  oneOf [anyOf ["??", "||", "&&", "|", "^", "&", "==", "!=", "<=", ">=", "<<", "<"],
    all [t ">", t ">", t ">"], all [t ">", t ">"], anyOf [">", "+", "-", "*", "/", "%"]]

/-- Operators that assign. -/
def assignmentOperator : Rule Symbol :=
  oneOf [anyOf ["=", "+=", "-=", "*=", "/=", "%=", "&=", "|=", "^=", "<<=", "??="],
    all [t ">", t ">", t ">="], all [t ">", t ">="]]

/-- What can stand behind an operand, apart from a choice and a binary operator. -/
def plainTail : Rule Symbol :=
  oneOf [all [t "is", use .pattern], all [t "as", use .bareType],
    all [t "switch", braced (use .switchArm)], all [t "with", use .initializer],
    all [t "..", opt (use .unary)]]

/-- The words for a variable's introduction in a query: its name, or its type and name. -/
def rangeVariable : Rule Symbol :=
  oneOf [all [identifier, t "in"], all [use .typeName, identifier, t "in"]]

/-- A designation that is no word of a query or pattern. -/
def variableName : Rule Symbol := .token (.identifier followingWords)

/-! ## The rules -/

/-- The rule of each symbol. -/
def grammar : Symbol → Rule Symbol
  -- compilation units
  | .compilationUnit => .many (use .topItem)
  | .topItem =>
    oneOf [branches (.many (use .topItem)), all [t "extern", t "alias", identifier, t ";"],
      use .usingDirective, use .globalAttribute, use .namespaceDeclaration, use .declaration,
      use .statement]
  | .usingDirective =>
    all [opt (t "global"), t "using",
      oneOf [all [opt (t "unsafe"), identifier, t "=", use .typeName, t ";"],
        all [.many (anyOf ["static", "unsafe"]), use .name, t ";"]]]
  | .namespaceDeclaration =>
    all [t "namespace", use .name,
      oneOf [t ";", all [between "\x7b" (.many (use .topItem)) "\x7d", opt (t ";")]]]
  -- attributes
  | .globalAttribute =>
    all [t "[", anyOf ["assembly", "module"], t ":", commas (use .attribute), opt (t ","), t "]"]
  | .attributeItem => oneOf [use .attributeList, branches (.many (use .attributeList))]
  | .attributeList =>
    all [t "[", opt (all [.token .anyWord, t ":"]), commas (use .attribute), opt (t ","), t "]"]
  | .attribute =>
    .node .attribute (all [
      .node .name (all [.token .anyWord, opt (use .typeArguments),
        .many (all [anyOf [".", "::"], .token .anyWord, opt (use .typeArguments)])]),
      opt (.node .argumentList (between "(" (opt (commas (use .attributeArgument))) ")"))])
  | .attributeArgument =>
    .node .argument (oneOf [all [.token .anyWord, t ":", use .expression], use .expression])
  -- declarations
  | .declaration =>
    all [attributes,
      oneOf [all [.many (use .modifier), use .declarationBody],
        all [.many (use .firmModifier), use .declarationBody]]]
  | .firmModifier =>
    oneOf [anyOf ["abstract", "const", "extern", "fixed", "internal", "new", "override", "private",
        "protected", "public", "readonly", "sealed", "static", "unsafe", "virtual", "volatile"],
      all [t "ref", .ahead (anyOf ["struct", "partial"])]]
  | .modifier =>
    oneOf [use .firmModifier,
      all [anyOf ["async", "file", "partial", "required"], .ahead (oneOf [.token .anyWord, t "("])]]
  | .declarationBody =>
    oneOf [
      all [anyOf ["class", "struct", "interface"], use .typeHead],
      all [t "enum", identifier, opt (all [t ":", use .typeName]),
        between "\x7b" (.many (use .enumMember)) "\x7d", opt (t ";")],
      all [t "record", opt (anyOf ["class", "struct"]), use .typeHead],
      all [t "delegate", use .typeName, identifier, opt (use .typeParameters), use .parameters,
        .many (use .constraint), t ";"],
      all [t "event", use .typeName,
        oneOf [all [use .memberName, use .accessors], all [use .declarators, t ";"]]],
      all [t "~", identifier, use .parameters, use .functionBody],
      all [anyOf ["implicit", "explicit"], .many (all [use .nameSegment, t "."]), t "operator",
        opt (t "checked"), use .typeName, use .parameters, use .functionBody],
      all [identifier, use .parameters, opt (all [t ":", anyOf ["base", "this"], use .arguments]),
        use .functionBody],
      all [use .typeName, use .typedMember]]
  | .typeHead =>
    all [identifier,
      .many (oneOf [use .typeParameters, use .parameters,
        all [t ":", commas (all [use .typeName, opt (use .arguments)])]]),
      .many (use .constraint), use .typeBody]
  | .typeBody => oneOf [t ";", all [use .members, opt (t ";")]]
  | .members => between "\x7b" (.many (use .memberItem)) "\x7d"
  | .memberItem => oneOf [branches (.many (use .memberItem)), use .declaration]
  | .typedMember =>
    oneOf [
      all [.many (all [use .nameSegment, t "."]), t "operator", opt (t "checked"),
        oneOf [anyOf ["true", "false"], all [t ">", t ">", t ">"], all [t ">", t ">"],
          .token (.kind .symbol)],
        use .parameters, use .functionBody],
      all [.many (all [use .nameSegment, t "."]), t "this",
        between "[" (commas (use .parameter)) "]",
        oneOf [use .accessors, all [t "=>", use .expression, t ";"]]],
      all [use .memberName, opt (use .typeParameters), use .parameters, .many (use .constraint),
        use .functionBody],
      all [use .memberName, use .accessors, opt (all [t "=", use .initialized, t ";"])],
      all [use .memberName, t "=>", use .expression, t ";"],
      all [use .declarators, t ";"]]
  | .memberName =>
    all [.many (all [identifier, opt (use .typeArguments), anyOf [".", "::"]]), identifier]
  | .enumMember =>
    oneOf [t ",", branches (.many (use .enumMember)),
      all [attributes, identifier, opt (all [t "=", use .expression])]]
  | .accessors =>
    between "\x7b"
      (.many (all [attributes, .many (use .firmModifier), identifier, use .functionBody])) "\x7d"
  | .functionBody => oneOf [use .block, all [t "=>", use .expression, t ";"], t ";"]
  | .initialized => oneOf [use .initializer, use .expression]
  | .parameters => between "(" (opt (commas (use .parameter))) ")"
  | .parameter =>
    all [attributes, .many (anyOf ["this", "scoped", "ref", "out", "in", "readonly", "params"]),
      oneOf [all [use .typeName, identifier, opt (all [t "=", use .expression])], t "__arglist"]]
  | .typeParameters =>
    between "<" (commas (all [attributes, opt (anyOf ["in", "out"]), identifier])) ">"
  | .constraint =>
    all [t "where", identifier, t ":",
      commas (oneOf [all [t "class", opt (t "?")], t "struct", t "default",
        all [t "new", t "(", t ")"], all [t "allows", t "ref", t "struct"], use .typeName])]
  | .declarators => commas (use .declarator)
  | .declarator =>
    all [identifier, opt (use .argumentsInBrackets), opt (all [t "=", use .initialized])]
  -- types
  | .typeName =>
    oneOf [all [t "ref", opt (t "readonly"), use .typeName],
      all [t "scoped", .ahead (.token .anyWord), use .plainType], use .plainType]
  | .plainType => all [use .typeBase, .many (oneOf [t "?", t "*", rank])]
  | .bareType => all [use .typeBase, .many (oneOf [rank, all [t "?", .check endsNullable]])]
  | .typeBase =>
    oneOf [use .functionPointer, use .tupleType, anyOf predefinedTypes, use .name]
  | .tupleType =>
    let element : Rule Symbol := all [use .typeName, opt identifier]
    all [t "(", element, t ",", commas element, t ")"]
  | .functionPointer =>
    all [t "delegate", t "*", opt identifier, opt (between "[" (commas identifier) "]"),
      between "<"
        (commas (all [.many (anyOf ["ref", "out", "in", "readonly"]), use .typeName])) ">"]
  | .name => all [use .nameSegment, .many (all [anyOf [".", "::"], use .nameSegment])]
  | .nameSegment => all [identifier, opt (use .typeArguments)]
  | .typeArguments =>
    .node .typeArguments (all [t "<",
      oneOf [all [.many (t ","), t ">"], all [commas (use .typeName), t ">"]]])
  -- expressions
  | .expression => oneOf [use .lambda, use .query, use .operation]
  | .operation =>
    all [use .unary, .many (use .operationTail), opt (all [assignmentOperator, use .expression])]
  | .operationTail =>
    oneOf [plainTail, all [t "?", use .expression, t ":", use .expression],
      all [binaryOperator, use .operand]]
  | .operand => oneOf [use .lambda, use .unary]
  | .guard => all [use .unary, .many (use .guardTail)]
  | .guardTail =>
    oneOf [plainTail, all [t "?", use .expression, t ":", use .guard],
      all [binaryOperator, use .unary]]
  | .unary =>
    oneOf [all [anyOf ["+", "-", "!", "~", "++", "--", "&", "*", "^"], use .unary],
      all [t "&&", use .unary],
      all [t "..", opt (use .unary)], all [t "await", use .unary],
      all [anyOf ["ref", "throw"], use .expression], use .cast, use .access]
  | .cast =>
    oneOf [
      all [t "(",
        oneOf [all [anyOf predefinedTypes, .many (oneOf [t "?", t "*", rank])],
          all [use .typeBase, anyOf ["?", "*"], .many (oneOf [t "?", t "*", rank])],
          all [use .typeBase, rank, .many (oneOf [t "?", t "*", rank])]],
        t ")", use .unary],
      all [between "(" (use .typeName) ")", .check (firstIs startsOperand), use .unary]]
  | .access => all [use .primary, .many (use .accessTail)]
  | .accessTail =>
    oneOf [all [anyOf [".", "->", "::"], identifier, opt typeArgumentsInExpression],
      all [t "?", t ".", identifier, opt typeArgumentsInExpression],
      all [t "?", .check indexWithoutColon, use .argumentsInBrackets],
      use .arguments, use .argumentsInBrackets, anyOf ["++", "--", "!"]]
  | .primary =>
    oneOf [.token (.kind .integer), .token (.kind .real), .token (.kind .string),
      .token (.kind .character), anyOf ["true", "false", "null", "this", "base"], use .template,
      use .expressionBranches,
      all [anyOf ["typeof", "sizeof"], between "(" (use .typeName) ")"],
      all [t "default", opt (between "(" (use .typeName) ")")],
      all [anyOf ["checked", "unchecked"], condition],
      use .creation,
      all [.many (anyOf ["async", "static"]), t "delegate", opt (use .parameters), use .block],
      between "(" (commas (use .tupleElement)) ")",
      between "[" (opt (.seq (commas (use .expression)) (opt (t ",")))) "]",
      anyOf predefinedTypes,
      all [identifier, opt typeArgumentsInExpression]]
  | .template =>
    all [.token (.kind .templateStart),
      .many (oneOf [.token (.kind .templateText),
        all [.token (.kind .holeStart), use .expression, opt (all [t ",", use .expression]),
          opt (.token (.kind .formatText)), .token (.kind .holeEnd)]]),
      .token (.kind .templateEnd)]
  | .expressionBranches => branches (opt (use .expression))
  | .creation =>
    let ranks : Rule Symbol := oneOf [rank, between "[" (commas (use .expression)) "]"]
    let element : Rule Symbol :=
      all [use .typeBase, .many (oneOf [t "*", all [t "?", .ahead (t "[")]])]
    oneOf [
      all [t "new",
        oneOf [all [use .arguments, opt (use .initializer)], all [rank, use .initializer],
          use .initializer,
          all [element,
            opt (oneOf [all [use .arguments, opt (use .initializer)],
              all [ranks, .many ranks, opt (use .initializer)], use .initializer])]]],
      all [t "stackalloc", opt element, ranks, opt (use .initializer)]]
  | .initializer => braced (use .initializerElement)
  | .initializerElement =>
    oneOf [all [use .argumentsInBrackets, t "=", use .initialized],
      all [identifier, t "=", use .initialized], use .initialized]
  | .arguments => between "(" (opt (commas (use .argument))) ")"
  | .argumentsInBrackets => between "[" (commas (use .argument)) "]"
  | .argument =>
    all [opt (all [.token .anyWord, t ":"]),
      oneOf [all [anyOf ["ref", "out", "in"],
          oneOf [all [use .typeName, identifier], use .expression]],
        use .tupleElement]]
  | .tupleElement =>
    oneOf [
      all [opt (all [identifier, t ":"]), use .typeName, identifier, .ahead (anyOf [",", ")"])],
      all [opt (all [identifier, t ":"]), use .expression]]
  | .lambda =>
    let body : Rule Symbol := all [t "=>", oneOf [use .block, use .expression]]
    let parameters : Rule Symbol := .seq (.check groupThenArrow) (use .lambdaParameters)
    oneOf [
      all [opt (all [.check squaresThenLambda, attributes]), .many (anyOf ["async", "static"]),
        oneOf [all [identifier, body], all [parameters, body],
          all [use .typeName, parameters, body]]],
      all [identifier, body]]
  | .lambdaParameters => between "(" (opt (commas (use .lambdaParameter))) ")"
  | .lambdaParameter => oneOf [use .parameter, all [attributes,
      .many (anyOf ["scoped", "ref", "out", "in", "readonly"]), identifier,
      opt (all [t "=", use .expression])]]
  | .query =>
    all [t "from", rangeVariable, use .expression, .many (use .queryClause)]
  | .queryClause =>
    oneOf [all [t "from", rangeVariable, use .expression],
      all [t "let", identifier, t "=", use .expression],
      all [anyOf ["where", "select", "by"], use .expression],
      all [t "join", rangeVariable, use .expression, t "on", use .expression, t "equals",
        use .expression],
      all [t "orderby", commas (all [use .expression, opt (anyOf ["ascending", "descending"])])],
      all [t "group", use .expression, t "by", use .expression],
      all [t "into", identifier]]
  | .switchArm =>
    all [use .pattern, opt (all [t "when", use .guard]), t "=>", use .expression]
  -- patterns
  | .pattern =>
    all [use .patternUnary, .many (all [anyOf ["and", "or"], use .patternUnary])]
  | .patternUnary => oneOf [all [t "not", use .patternUnary], use .patternPrimary]
  | .patternPrimary =>
    let positional : Rule Symbol := between "(" (opt (use .subpatterns)) ")"
    oneOf [all [anyOf ["<", ">", "<=", ">=", "==", "!="], use .constantPattern],
      all [t "var", use .designation],
      all [positional, opt (use .propertyPatterns), opt variableName],
      all [use .propertyPatterns, opt variableName],
      all [between "[" (opt (.seq (commas (use .pattern)) (opt (t ",")))) "]", opt variableName],
      all [t "..", opt (use .pattern)],
      all [use .bareType,
        oneOf [all [positional, opt (use .propertyPatterns), opt variableName],
          all [use .propertyPatterns, opt variableName], variableName, .check endsTypePattern]],
      use .constantPattern]
  | .subpatterns =>
    commas (all [opt (all [separated "." identifier, t ":"]), use .pattern])
  | .propertyPatterns => between "\x7b" (opt (.seq (use .subpatterns) (opt (t ",")))) "\x7d"
  | .designation => oneOf [variableName, between "(" (opt (commas (use .designation))) ")"]
  | .constantPattern =>
    all [use .unary, .many (all [anyOf ["+", "-", "*", "/", "%", "|", "&", "^", "<<"], use .unary])]
  -- statements
  | .block => between "\x7b" (.many (use .statement)) "\x7d"
  | .statement =>
    oneOf [branches (.many (use .statement)), use .block, t ";",
      all [t "if", condition, use .statement, opt (all [t "else", use .statement])],
      all [t "while", condition, use .statement],
      all [t "do", use .statement, t "while", condition, t ";"],
      all [t "for", t "(",
        opt (oneOf [all [use .typeName, use .declarators], commas (use .expression)]), t ";",
        opt (use .expression), t ";", opt (commas (use .expression)), t ")", use .statement],
      all [opt (t "await"), t "foreach", t "(",
        oneOf [all [use .typeName, identifier, t "in"], all [use .guard, t "in"]],
        use .expression, t ")", use .statement],
      all [t "switch", use .expression, between "\x7b" (.many (use .switchItem)) "\x7d"],
      all [t "try", use .block,
        .many (all [t "catch", opt (between "(" (.seq (use .typeName) (opt identifier)) ")"),
          opt (all [t "when", condition]), use .block]),
        opt (all [t "finally", use .block])],
      all [anyOf ["throw", "return"], opt (use .expression), t ";"],
      all [anyOf ["break", "continue"], t ";"],
      all [t "goto", oneOf [all [t "case", use .expression], t "default", identifier], t ";"],
      all [t "yield", oneOf [all [t "return", use .expression], t "break"], t ";"],
      all [t "lock", condition, use .statement],
      all [t "fixed", between "(" (all [use .typeName, use .declarators]) ")", use .statement],
      all [anyOf ["checked", "unchecked", "unsafe"], use .block],
      use .usingStatement, use .localFunction, all [use .localDeclaration, t ";"],
      all [identifier, t ":", use .statement],
      all [use .expression, t ";"]]
  | .switchItem =>
    oneOf [all [t "case", use .pattern, opt (all [t "when", use .expression]), t ":"],
      all [t "default", t ":"], use .statement]
  | .usingStatement =>
    all [opt (t "await"), t "using",
      oneOf [all [between "(" (oneOf [use .localDeclaration, use .expression]) ")", use .statement],
        all [use .localDeclaration, t ";"]]]
  | .localFunction =>
    all [attributes, .many (use .modifier), use .typeName, identifier, opt (use .typeParameters),
      use .parameters, .many (use .constraint), use .functionBody]
  | .localDeclaration => all [.many (use .firmModifier), use .typeName, use .declarators]

end DeclaredDebt.CSharp
