import KeywordCatalog.Text.Packed

/-!
# Names of historic letters

Scripts beyond the first plane of characters: code points from 10000 to 1CFFF.
-/

namespace KeywordCatalog.Text

/-- The names of these characters, in the packed form that `Text.codeNamed?` reads. -/
def historicScripts : Packed where
  steps := 15464
  digits := "
^sCbF#0fshu=;T&.?9Ltb`3zfTWX47jCB>T3uSLc.OJ`2Ufg>LVd:=`S^!v0bw4M441898H7R`Lf`;))>'1jSGW&Y*lCUPz>s'Po
ntMDtO_fQ`-8y!mbYHx&yQ&=oT*='b*xiFeiFfdOnvnO[@$oW,UAT!Q[aje4ys4;d#n<0Fy@Ef^Bio,a0m<LCrEfIU<:@U-<#1u%
8Enz#q?QwaS,O<-nUU,&?l%HISxb1+W7:*2J^Hwlvx1asaj9v]s)dM`'<p(bPyWMmDfLO!DO#V7_EcnMvFs!:_SEwK_5BvgzyAEq
gfgHHj#e6obfquG^7MC]&'_jkxn0zC*f/Q)d`-/W?@Hsw`LQZMdJC$/sKkP?CT3XGjZ[14a#=/G7Rw?)Aq+5!AAZ8!KH,r)I5exL
%B.mOYDg<?Gv1N&cO#F+dhPqF*:oq:T3*J]9Ue-XF]75#If!+!o?x]*qW0L`U/R[)ImM`uP,3`QjLu0'Ga5@4;r7%Yi*Sh7;_Hn2
leaV]l`ITP>w.ywUm6%o51it[Q2F=+&U2(Ixw2)RLH<Y4K_uabRI$Fe#1s?t>Z`sn;fvc<gm:&4,X5oi4i+L(`ZHl=tdF;d[sAEc
[hoUGWza=wwGQ_;_Zc0zmMlkdwO2]=Eev#V5DNGmJ_vHZEEe8-fTtub37C<=P09Ao(XA;'MJ-/BZZ8OnSk]m'<lw;zPo#k_v3iZu
:!uqHUxe)qXSIaoKDuHK.ldy!Sv2.lO@X<b5;P_PDrB<CfXxjK!W%t3^v;^e#'HCUATL8>xM:H9q;YVt=QW'>3w/pN#H^$#RecD_
$mmsFEyP$!6LHeFY/_BYW`?Iez@4.hGl_w_WY-V8XvCJuflG_I.qBOpN+I5djK2ts_EdqxXywdQh^!1u;A,MZ#32L+a8b>U95nnb
ppKApV$kOT]w5V'0?>EA;!IlAW$U:d&uX=OwP7Z2)u1cN)b%uxx,65AKb7N<PHKy<'zk=KceX@F5lSObzVEq0jxQ0lIY[ZWkCiS6
p_!XCN!XXL@thMlvpa/iqdpi2+35#X3f8P[V/@+f1h)LeSpsTPsRD?x9]<&o<]Z!BlA[-s1l((uB$iywYy#Tlv73twtkF052?us)
[Ed0lQjwGSCGhcr>`]kmq)xFto+P$YjTkc*^;j2TK&j=a)?j5uX]@LDap]W5,&^=KM0l`r$H3dyPr%a_k/4eXB4KHNl`zw%B7XSX
5VZ<7iP8E?Z&x@PJtj;clDP7;qY>hH`A<)V='xFD^mt2nJxfSH.>oFhTKi7]RMf=cIm@b1&POifga7Lm6GV(0fIZ7F^wL'-[+[t9
Y;wy[qQUSx`8f>P1D*-5Bvqvcz`zGCd20&*82qw^R#NkkpKtqt9qA&v/#5;'t@4*>vcWR6*-3[t,jMt*&n1pS]n7+XxZ!F&o%DFQ
%a9;di*Ac1khOY&Zi1T9a;jwVs(<6+<7u.QNSrL[7!ApeChh[AzbC-H9B9oWGUHGmWHd'LWy9tWf5*OX]`X-=CT8t<me;:?S'o.M
bgkw9ySWz#Qr>VYM'GB(WfG+j#!dA:0),*,NddmmCwv/^1g%y5ye3KY-)4u$lQ#_>%<=bE<p1XADV8H]<T2BaZ)ok7Cr>I(y3*;
t!:Yj,XfWR@rIUastA7M,!Btz=RuZ3H1nGc%h5q^ROl)bch!`r_+m5&AxdD3nyT^f6*]rwpxkunD6$/52hVX5$@@yM@6yr3$uW;q
:+XD!KLB.i6SDR)ol2v>q`?,x1'RX,UhZg3=Bva!XlffTEtPc,^#Rm3k`lLt%Z>$h5f[;>us23-j7_8'CK)=RhIOY8I$-2C$y&aQ
B(bQJ196*MiDFkASik;VF+T)qGxE4e+gt<DYh3C3>]Et!'EMXPRT1H,bD@7!X#6VFXp(r?!Gx?k)9mLo:Ei(yk,l(Vsb0P!%D]'Y
$5if1#_kOOu]F8-c)[xV&Ii;.I*Av`F>1Rx#!`--RR4^I]bKktXqTClkwYx2al@bZU4-&-RrD,5XBL&b'&?-P!K>C79F?@1?wMG-
:wEm4r<7FMR*ky-[(-jbXs0<_I@KU%?H<s/W#WT2O%kqg(gMMIqS,(k+Ga-=3iDk9coaoB-ed!dp(4(AnaL3:W36MZwsdv+B/$fj
r.'i5hJVofYq0_hI$j:nsyvNiJgyeffHUoV:u.tr_r]S7RTCUE0j$tXI)q]?i!#q<@J.U,%H=e:Kv!C]+^WE9EOj#^Bxv`5tIO6Y
HEX[3i3Tj6x#oor9'%FPNQ_7F8NXVb:Co;5s,_x1oSqkq3/%t<BFpb3?5PtGzt5u'eS,u';#r`-`Gsml!K%2kZS7<!1&2Eo'Z#tS
v*[,D<T]DH,AHd]#/M=e+IT4zufM,zx2#(?rc_Qf^BubbAM6<X8r[z`78^*!qP](T?qZg!Kar1zOl'`*:v*r4et2sA:7O<78dS/t
`lb:#r3(f=hC$ex=wYGBRH0C=5:^@WyrST>+Hb1rJ);k;Bo)u_0OV.4u%>9+sD,diiDxApHQ)noXZ!gXt'6ntXB(/cVU)i2)S#59
2L?R`v)jfh6aHrWp]@'UWu5Rc=mQn</3f2zuG.gU53XOtxoEyn/8'yByn!H3T(?RN%aG$J?Q<^P)Gw.0:?-*p`*1+Lh0W0/9dfcR
``_HXhnZ=l(ucLPY(H)+49X`z[[AMXL#`w@K3]79^hRnALa,Zq3J<jU^RLiJ-0qc/%]H;IO<:._^vd!<;C0qcIn@#k8SsXty5l$R
8#Y<L^>2&<6)7&AB;&Vq/w9soA%f`1&pN^KDxD/[sj'EP<gB`]@P<`y12;$s12ng.Fq_#1A+*&G@X@oK3O#kdZY[QXks%Sl&AjZ
E#p^kXkv6CurZ_y80BO(',yr@<7.vKRCglUw9&0/iWp2=o9HX`W$ZA^mx-gZP?g9muAAI,.uGV$6b@qrWZ`yd!T(8`t[DwR<Jk]
j#0%em<TmHnlFcbj=RApy4%kkGT!U*/JjYHRi^_A*/dDH(bAGuK[,-;h(lL#ga+W<T]gMoP-#a_@UQ*WO9_7CyG@9hn1`2@-42$g
gWwk%0xh2[v;!NfdhE9xt#@MGaI?[#+@EUe#OO;9%g>e%?B;AG'#j<RR>HWj6RD>@[P^A1e/D!P0VAccMvyN2n:FCWznjSYTyCdR
4_Nqx3d*/4eO^U#9l?8NqtD1fmCg'`(e3F7p]JkS[1ZO%2xKw+JaQHx>^2KHAwBmM8d$^^8Y4]av-W/iYQ9TRupxr.U1P.e_fHrE
I;am50Cq$Fs?Jl>]oj/-#2f+0M9#K8:#6be''GfJc&s&C>Wj;]rvKd`8S78=[T@[vCp#j7cg)LY(G.rF$6s'%u=_muR[dc6*lcbg
S-IwrPCo,S?^N/.NAN*iLObaPaM>I@s+U(_JnS86iFwZ6b$+`<TtF8,_A$u=go=1b$VO0QD)X;9t8gJ1=1Y2)H0nafT`i[,$)@xF
VL`V]O8?HJyPX1r^Y:jHxeK+>+o/cE0&&i[_Yc-:xlY:i975'N_XqQIn-+rwzZVF-bCuC`KYWs<tHl%teNIm)R//FO6B*t;2J*b`
g.sSr.Zqww).0t%)Smb6M`dClT(T@9JVq'QvObm`/Pj.bl(8LFP[,xW1hQ+XO<r'k<I+8Sw,39?3jhmeIFQcDCI-BL:8sD@+Xxea
2ONYNc4_Lh:aD*`R?`bpu],5,w,CB)]Fp2(Mu#]=9zp9=Z'6NcVYR$.PYN#uYt(o?,q3Th#LxxN.q2g$AY!X4Z<0WrjH(LCp;W'S
EX&.#dUKYb/ocY0xV5/E:`tW*#xT'/6X;I4POJD[TRX.I0<N_(2?@)<Bv8mZnzW=@s(<FkDTA5X3hFdzhy!*zQrzkc,3zFB4<8l%
caqgsZfjHu$8`?;$rMo=J+C,h#UE%CerZ,J^f2eyJcT*/RkC<w@Twna%eQ&JO%z4SkPZyw(]PKnNXNFOn$+IsSpn@X<f3Z9&[-xX
O;#$Ap)rxcZ8d#S>qiRQ$TAS&:)Lmw^-juC?k72&MF!XKN4S%pP3mBjp2I^&(j6=3#%[f@4<Q.J%W$g*R3iG%C^FC==yNHTm8`oq
`w;O7<lDWnI@ngUskbl+tJ6S!jIe+Xgr%kG(L7U,CerkTh=1:6-0*:a'DMk1`'!Gkio,8K2s`.%v#$ldqkluyfP`U#t0k,9c2pZ9
_a6gHl);rV_Y(fXYPVm[%qfGS9`[wkq;UZy2tQ)NB%0P6s*$%_FCB.'dGt@]9aNKJeFM#bm6`-JRPikriL5_Y,WZat&bqJ%W%w#e
$4]LLU%Ehz2^7YI-pY4QPM'sKa7Xgt%x'=yQBW^,4L$Fa5Rw8`xR0L]!_7Gma8(xzTKY;8Z`@ruV_'h>30z%mqp;pcbnl=wcHZDW
vOpz@.pv5CtrP34`O.*_vyUZ8fy>!-jHpeTG3/oI>I]h`?.T'9PMat-wE#4C0m?vt`k*qmogN_@,TxJ!Y!MM,vMZGf7Pi32N0^jQ
*U%7GktAsy9E$v<E$R4`+]EgSFlxWYy;6`piCXCO*^_(wIE_JP1zg-QG0s;v7x#bJ47gNPzfwJR%0WF!@Xn:M#Bi#4q:JKHX#f*(
ZH#_!Zm:wNA&w/cr)*2F?iT!tF^Y8op+M1Q]hUz>3nkD0_@&F8K2jK)%TB/kz?U5Uex9u^7NVTeWHnw0=+Y;(q:6yNosP:&jUA9Y
YGCi5&h4FN%LSpuD[2]jHjT7Rn.c7-hE&DCEsuvqKChGLtZb8!Cjw%>on2&Q/s<%HK9328`f]O_;CWXk-1`Rt$VRWFh#X8A,F^id
nY;/mjTss]dUkw#3n.0pfT^>A9[GS1f5U:cZ73dJLAe2bBd4<w?j@Dy1_=jeF[qrk,<WDpO,m5M?Tgr+!AeLqBcb)U4i]/,>dQ(R
=5.Kepzt^wz<a?jSREac]PTr%SqMB+ui:z`i:Lwkb<?A@3;1iFt<=oj'2L2kzrFyLvBLq-zx/2kk]p=/1&_z/.BNr%)KpHH:16wk
C1T^,IN0Ik2I-bht(#1DN6P<,33G7mvdBMUa^Z<.gh&0+VS`#i:COI2oTulKY3i[VOQD69n]p7W6]zT1zT;ms.T6(E`)0b_p[pYu
ry1Cxv]l&gNb#8g<S;;#T_NUDprN@']cK2nMB9w$9rO&Bc7O5xtgmWssvh0Yny8/an'/<#(Wxd<FjCoGGZ>ERbz[;-?)_L0ynQ#
m/wAk=lzH8;;1w.Kqj-feWq!Q)nous'l35abGdh,[TZ1b/Z$'Rr=r02k2/1NUN^Qov]m`W8g]1b,h?p#%IPXCzSJ8-:oj@os1#G
`#uhFt5uVQg;.=vg,JG?e2`>1L1,3RXM.aETjP'MXk,:c9T.4n]dft^#r*iGMrJkmnFGyuzlW?]2D=s0v;[,M>bGd8B4hCa-t-p/
i?_3pFTjUz*I4M*S;oPZkGEw-2?N'cGQRZPXIZW^5&HWZ.`=(]xh$:r26(fm-['oCy/aVHc5?I$56g^aQRrEj[u9Om7SgX+@t:``
s8IS!4@TZ;wMt5rKAoUAw.Kbf1m6kG!KIk;n9mVa!1=E>Z5Jw>jQxn+Q]C_s[W]D1Qn4#HT/Rz12/LJBupY`^*fj_Hd:Wv,3`C<+
,QTxBwy[Ti9Z8`H@Bkg1Kg3Mt4'O9Z?Eu7f3c2QWzz%[9;XK1Ep<b*Iw(v+92OKippo,63EdT-AhZGE=*qa?0MsSG5L:RL`:-Ulk
[N_rnH,LYo(l?OgbUdn%80]hSNxtlMB4i_u3PU+U7vCeBcNu`U`#xiQ*c2374Qy54=(qzItZbF(]cyv/Ul;_@J!MJaDgVC>LKTOq
Q*TTR#7=C.Jt<d928^x&xt6_o2`+&-O#V7qrJ/@rV!/V_%o?)-v``(N.'D/5*AA`Q7>JDnOq!OJ^lq(e>:SAb7rS>&%AS(ks1YDn
c$g1OiShmSSC7U.u[Gm$26=g/bt=aEa>$vaQDiIWBeNz+!o&*a,R-mdnQYKlN#%EUWf.0dhg7lNk3ShdV<8*aA%iMjSgKoLU1VHs
W8yPN[!'!0?z;GqQ(pyb(%yOX3xb]?PH?V`jcA5d!;>=.hSr(U*@?dPd>59S_^4;*uXS=M#TAA(q8yYeJDuoX?*5TE&f`DIoSdJG
F7=MWCP1=iBU(&y%FoB,Sm<IQ/wO&!DBTnWAt@tpv8wI$^Z!g0rY9e[>^TO%Z>cOJVL0cb!(Ien2rYudE`/OvG`83IN2a(eux7Ce
zM2#*W&yQj;okW!76jY,+;PO9:3A/iOTX;,zn>5twl#97vO]i,:/NMG1w2W$Sn?Gehyt;cx2ZQI(?.8b,W/g'(5VSTPxK9,IA!SG
6_'7#:pKU>]X4-t)5I$J$im<Nx4M]4k#U)cBI_!2D,<>DMCQg]SgB&4Y&AmLzfiLlI;0CzN'lsN6'ORubGQP9[ZayynCI#n##D.)
4rL7;yK?q_0?UqIW8^?X[&NhJD.gWRpIpMcT)p51Aq6*_LZy3;VeKSz[,),v_&ok@bY[UyYb]X)ZJh'l?iC&Uf?CY@OV5C=JyPB,
7yR6sx$y1LL(#&&Qj;_:3Ki`oEbA.>#Wv']Jkh:qoFJh,>,l@d7w:ibd`,HR28O%XZTbZh7>L-4^=gy`nsJ.ZI8MuPOe!qLmG8@I
D8*:>SZH4Xe-Z(XM>vA<mY;;pomRxoKZ_/1AdZ]TUoNu?.pNYng@:s*qtL]!I@oKlRBI=w*$mP=#u-T)Fkg(3t=Z^E1:Xk(E=f4)
C<u1TgbwT'P,!)FCVKV'?a!.36a2&z)5X]6u?B(:TU1?$Y76Dp6>5HGO%x?zBcGRc(ib)po`k4&+P=%bT_As*r^V7Qi8/N]]nY`(
2.5poLG^=P^hG'$w%I?b;ecw$Y,`T2KQ6B=UCF2nuLOzu8(n2mtubUQ8#^gCb1Gtu?;g]]_+vPy(>o7zQ`j3-s-6nwSIAuR5fy;8
9V047J^MsK#hNKw>vTYBoc`Rbpf`<SDE=Yqq7OM3<Nf$FGd#2`I,uM3[kLI#51-VO;l@0#$'a-9':+&K2vI3S=?eb=a[^Z`fct:7
cki_U&6$hL!:3!6UQWzp@4d-A3QqaBW3F?xa.&H,T+%Q[:L2omnvG5#LE*eW)dY<0ns,f@j4>v!]=/FBLKX0Z0+'#lp4:<=Z9%tl
U+'KOZp]MxnWjlo%+l1'h;zj8F&I)6YqN*leoMO-!1euI*Z+T*ESK)l&f2hLm/V+Fv7[P$]l6oL[H=8Nz&9QT0f=C26ep:8O8@+q
;HTx),!#[eLLV7UQrn1/H2PmiYi^WXk>zA_Ti@7Ep9Y''q;79VI_,2d_?J3<(;E2i<)XEDT0[?fQx1`k-V(-7825<,t`/#+5q&zN
$oa%ZH%ZKlh:R<1?Y3dC*KNN;>ADWY=^WvaW@`soR=oT:`ER9iYTzV@2i0fYH4:N.X->#6wSP/q1xHV[L:s<N]60%;3L^9>o[t!_
2:s#JwVd(YW_#z0&:CK<OZ$AOCK_(;fnws=3gk7fNUOoNLH>4@?+vt1@o`2M*[Q$?1`yS7idiZ/$=%eSI5:*KiwqRa-p&4kq^Zu5
r/HU5;Oh'uqhkOWral#n[S3ysp!N^7P[wg=&-xe07p40/+[VZ0sO`ZXsQer#Z/+(-PT;YL(b*blWl=sO6y(xc4BLU7W%_uh'Ryql
gU0W.lttEBg;//v94WcU;*(;@yX'5Z<4HsO=L`*`XX(rh;+CT+oNPh?zcL,Wl6cw&_K=NRX$qv8DuT%5l<]mw&+-c.J2].^aqQ-^
U3AGLb+?J$EJ[?O(Y,n=EM1&?.q9iCgn_<>t;B,/^Tt[nE^yqc<-:TFK6l8=&dUo+2mx*J/gUeT=(0AQQNdy6-?K>ylp[b5)1T$*
N**W^q+iz))D&'Sl'@YYCxhqOchO+7]m.mQ!<=Fq+)5qjBoZwk^zh;EE:1Yn-u+VPZ!e&gIL`[@*ssEzN9U,AW=i_2K,]jY[2<_
E#BNq$?DsDkOSQhHVQO?Y&)50`w,OYp,X8X0KmX:Tv,3+I^gRB'4-6UwIq+5UZ>X,&[c7E3oiO0;GS,B,F9L0aVn!*?1]ia0uNfz
rE2MM$pP*l4h0hb4=l$2Q2%eyB#_fLGRvo;n2n]<0jL)#hIk534]qIxqlCU(BY@Ew(2:>^_tzykv(I&q6@@]J.Jk`Fy7Kuz4=xkh
io:]MEt?rthq^;)9sf:He9%c[f3-w>gYn_'_R&u/q[QI;CcB*Y`Js(XIVD%nrNaY-#Ek4+.VKQQZ2XvXso+N<U5Ej'J.SH1]xXA7
6<vVRnr2mk`y-8=d`DI`^a9`3>t_9MSeH5IV;HXU@[@^XIl#*XC0U8j]H-fjj6+k640wZ;-GG/7Y'4>sn,5Z=%/BB*M>7[%O.0lE
MPPux/:g7qlYkFfn62DKcayed(K&XtVC&q.-,cLkE0n7sEzYId8X'*V2^zW^H^Q#n1Rwoxgj'[2Jy7ak^1;MbSL)il2MZ.#d@GKK
b$eRxFl!:s`#JZ3]k?Nit,C^aP.1OMg0#g.E4bO+EV#jbbvq=*'M$AMbCqsXN-x<ZKs#:D7(QPkc.rk:FRNNCD#6>Vl(5f@RwsVn
8e%WYkM#mI6iu(JI]Z@l7`fr9+bLL(u_I*/u!tcLh:s4z:<L_o;FzShkBU)UfB>3>!y<SF*+p0&qXmdzJ0V59OFApynkLqkLL7Pn
;q[f^(A:DTtlu7nw%ZN,IG5@Uiwy,5_piE[My^no%T8+t<kkq_*:&)q_mp#oWxgi<lJZz&z9OAAmSp#9zVVr.DH6<,xlkHB'oSK8
UXiMLhHqLRY8^)>V70n#$]d^<o5jvva8::<DdhZjH+Cm#B6Am=@B#9N?R*d&C$]s3,gr?P5>$2_*crM7E8WyK!Wg:QJ#a>Jk/jfF
Kuup+SXzu`#4h+12vc[V&;E9;!,D>GScc6MHe*lCIx%$3g6;*(SLqp^fv<'wU$peS8*]iH!edF&';98a#5D/I?8/HP(pzTLfxJxV
L;X9R0*%Pc4;ok(u%Mhx(])&5>z8hA2!#^RQIeRi#92>Y&Vl%Z(U5Kco@##+`SxMy3VgV9%GKd(`Sz(xPHeC$(UJ3MewBW0H0*2*
sk>:^Y,90RsX7,n?*DCr_y;`lgjK`$#Ph.x9mp/%Y`fOX!J)4S4%QnG:PLq;c%rK0M7yFd:9`8xdT:8teW2@]:Ba])k]b<!&XtnA
2GGN;_=Tk-j(Puw8+EJQ'@H6*$@*@WWjUfw2cwpB7*Yx,,YkoP?HC[,y@n30vIrACHYw>LkxIO,G6d'mY97jF,$TXqz;G4&85u0Q
B6NH*^vFF1#8id'*G!xkuN@:Dxc7de+Me@F1-dn2HWtwD%)fz$fp>*Q3ToZaIwQi<_,e9>LQjCQ180ViQ0hB#bltxe^p2SggYeMs
H54hv.TEU(jh/n6sQD`HQ-ef3zd+hu]HBQI%I12g:5P8#s`vMExzT*+%`!`7Nd<htDP]BXZlvZ.D!z4n3a)H1nzF7!;umP@g5NOW
5Ps4m7c$HSn-_REAA9q/kw6'Tlc1/Wlkm8yjq5A=[7rQo2@Tcjx*A6q#]#)/eh,BPm0#g;_O3%p^>cBKwx12Mu8+cr[<y+QAvOPI
j4p>teYczPX?F:3WCi2L`MNV-H1VNx<*l[-1qbsvLFGLWo&hTL@q;j+r6bjCkA]s6MWN9'bvKaz+f)xbPZW?<Mt8a6f7it,U1fhr
vgbi6j=D8HWEoY!=!uQ::9V?aDO%)z]!4!_O:b?O!9thZ+;@'y-jBd3_6UL];g8JtcqQiBpn.ll&JG5%;D=XPV(ScN$wdznw=P&A
_lWug4Zfi#<+h/hZz2[NXRqyuskSdm`NK@XkyfHmKtRMphIaAPctJkFP9Sif]t7;*l9qy.wo`<$^ptU^g&8Gft2i45'AAX)R)YRJ
1eLv*F==UlJ4Y+45D>uOXr>^e!zx:<@c?QKSOjJyC:qB[kC-B31EeFCD^U)1s7Byb?yy*[6kwLIDF0hcZPM?OhS+,DHki:Y[_Pr(
V+&O()+%7S>ZMr!u8H@%6zqYRG16<uryjftI<3OK<OfPFv9u2x(ZN<e!3rW?S<aY?%?AJtD8yaq!G#bcdvlFU7cjUWg;i)+4.;.L
+K',>@8=`SA!e?T>;/,!GY[Rv2`0eR-<pru1vS)hy!k_x!u<a/3.+k34b$6&#WW6jCKzYxld<nP](d)?/4P6BZSwP%6&coVteUWf
Tu1&C&YO`#up.4cxy&MHSBhDt*w?wy.:j!FfA_<+j.ZCNb4)0fFmT?nZUb^67)5nFr`CyTviz:.Ggj?z8P1zCukj1l&b],`C@u[.
d5/2ZeWYT#^ffjSJy/1&?6>xK-9X%.YAa,[G'win2T8P;c>Nl/j86-.H!ysgqdky?@>pRB92MQ&5W@EC^4MrijdZokQ6wx6Fp-$l
kqZkY'tbMszNk'PjF%=1`+ds[MEXiw@N4=[RT1ZB$b@BT#xWJKnqstp<DbswvSVIPzMs%v9R.N'U3?*=g&?GR!)HTzY10/a[y&V*
vWp.boyV'/Gp+U;4l%pIJ(<lp7)3=]d9Gc,m$nr2]sqF:Ong;@X7TawYqNgNNN%UbFqNIEtc7wPQLT8SVau27?%jIL?YfE@a_Bf2
YUH@4RveMfo4sbflMN6Ju6Q=/Li['QBB[]W2)?02I1Qc-uOt>1,YHTQ5[>-H+9A!Rjkgm]Z9$5+n,k&4h*Q1N_UFdv_DBr;K:f
a--e:PcTI64pG>T$3OX9],5[v;ULbKFHk>s(yB>z?4ER_JAA(%fCmT_Eq0Ssbka>,K-Tp8;k>8iHS=u+0;RtUst#%NPRTSxUx@N
i!5<:d8!L`OGm#ZJkX9.@]iQ,_t.V#GQ1n*B4e(^uNW+i,_CjEmFQrX$bN6&-#U3uNoL5tI=bY@QZE(ih$KMI(8b834!ZQ`Ab.z8
jAh(2XV39)7GG+Mw4j2)p`d5yy_Xyb'zcqi1N`KDA?L0(HpKo]@h=[ClNs'PfSS7Xa8;^7'U06I>TWDV%OxrKFl7W!?$]j2[K3O6
F(AcW@?QiH7OqQCm<&V9sMn)Se31iPor6LxG`ncuN3H634T's>m@ulHzK>0vl-GIxDQ%Xi8;K,`@,TV0thtoaWc[iZ?,`b_G6aZT
p7E)YF7%&_O@fitaduC-'cLXa;Bh[3#8<>!iqritL!wik>Gt6b;(NlNi4&DMvx,e;2w/;C'8ao):f85&I$k?zyTf*hP/_Cqo%uH)
UC+ov(@2fIMPuw71<4hB`Ai(,XigdKi,p!-vXd*AH*Gw(3WWOC+@-%Bipz28`#Q$#.V790qXN]>L!l3[x]a_kLrER,H;Y7'24M3o
tWjeJz58c'M?x`p,u>u^6qY(BT4LOeg[!@:#yRY2MneWwQ#%q&vX6JfVYP](J'AeQ5b15,8VXgxJ9v!zEj;]fk1%c`K:#GM00/od
.*McuQ*?AFKSt@0*&Hla-0Bz:KpL33Xg$,_eSwzIj47uOs_2>7xcWH7Yxb$uq=!W)KuM;`*KlGOUBNiOvB<J/6GzZn471Mk?pd=m
s,vl<-[Ff8gkK/.5=n2Eep?^@i0qV@4=nuAUkCAfy(oADbD9tL#]#6+KB=.?/2.tSU=?mcpSL9zQIXseeSC;09omaYbfhTIE4JAd
k`hlx(NEZOs0YC$`di7blhoaMw8w5ctU1#M4rRz0.N88'jS^C+Z$v^o4CwP!q9U!z`4C9+$WKP;pB/BLr)(DZJUlkF;<l872Nf2o
f_>HG%IjtJu<Ax.IYuj[Du$n$rc)aYG,Fb7k`$OAwv#zxBU4Sob16bZy@>^9<Rvl3MIB+bH%3ZPOUuQ(,L8,koo[Qjz&QGj>w/wW
59X>M(GF(jRGieB9g/^Vxs./wl9Sjvp0EW6>YQtul*9^RKRUOo[A@LZ.Q3c29<v6j02zIZ^.AaA5zu/927cc-;Pf!NCQIFIOF'p
T#+GB+GBAr<Vbx'<=PQ.IFarezRj(D3=dseN(%b^1$g&Cl7O+@Rhu%p5nS)gW0[+>:ilT6uJ)M7deZ6ykBL7T!*w%[L6Axmo;lsA
2q>ZQnJx6gF9#m:zAwe=z8kXYa$okySs1VSrT_JnB-paVragY:w7Ui#]qJMPWX:FVyNX:Y6pH3WW/4kk)beYDw:3lm`*Ft4PUZ/3
b`F$==c3cbSd+DUj#:V_]]X?,/uKy/fuvmo6=Ty=3d]$g/O(JtXgN0)v*M(ZkMfZ-'kW9GTFUgT]]-,<z/@EWj1uGHkZ$;#lMen8
h[fYtnQa6x0^*N,_w6[-&WotNPU>%_H)TH6FUdy_$:6rb+Y/$l31MS8U%?>Xvx*fHi!V@:P`Bzhp:z2y2sxTIs#^_DuZWL:LCO<e
t9c:e+9qO'<-[0olCxa>UQ_aUh><`jZS&i,:.>u8cEb3ntohZ.I.Tm`gvJBA<Z0va_%#C;ztV/PDnAg#r,Oc@UR&y0lyOeq=HF0U
Sm(%vEf-QjZHhZ3>)C?c^ti=.!(aBS6iY2'CdVBo3c_z=.<5.S:'Lcwg0V#k*`po&N1gz(3ZZx5;>ebN`g4qA>=O`3xi[aBXHLG$
^9@u+(]gNznQtarFq&mRsG=;]D[q((jDD1Ha[xXnbL^BAdG2Aefu-@EN.GC;('jxJ9zJx4P<DY`Id=T>SWn/l+#s@3#*==T-_%h;
Q>^j<;0h'[GkW7OAr4-l[-qtGxXdsY?Xl7[)MoMh%#OGr*7GaV.LeuXv%4%vHxX(olt9U;+q)N66l9<O%KS#'S8zsx3>mw><<h?S
C(<A=r@3dihZ/DfW0*iK1NAV'y$NKw1NC2@sG_J&%cKW(>mg_y:*2;LZSZU1^[o&P7Gt]o7xvr'AMn?:Oyu9NNiq&9)[NM:@YW/%
dagIkf)X]4xZF*)M1kgZq(0gp#oMF9%Y/TAn]-MQV:E/c8'vqG+n<I0iSIcQYh>LbY&*l#DPR'Q8U!poMN#-bl(jiBbwQzzi4)07
cOflUR^VNa.D$1:`xH!$?yNf_fUBQxZ5os0F;M%rO%(50XddslEfzu>b;$yKmo71Tqg/t/m7g<&?AaoCqM`[-6/XuF;1;O+tr/og
%'MoG#[&4GLo'G)#fZy+C6T)QqIPR0v_cpo-&R8sT8E08m'qbQwZf$0cqnZg/?n$;(xw6Qjvw_<)p'ki*mzSDLaKZO[<d0]YG,gA
I'QQ/;;3UMuJg*sn9)`fn5DKer3]sm+Bd8UX:?<0m<fS8W`'z<w@5bl[$qm0#C5Un<wj41xTDX2*NGt^jD9jiw4$TC:dp8Ix@kJ=
WdA:W:(r@;4TnIdIKQ.k/W^e>;rB[5p1hZ;JQq02HNo!h';vurqm)cn+ndh#10?r<!&</?Bt+'^wme]>*v$e=v08fAqJ;GqL`qYx
A@avtuL^IZo5r%$RkG<fMA!V?@zk<p8kg8y-eu`,li2@oRO3tY][/t/.=6%gqt@@7=vLdr$DPK36`g`i[OdT*2bgS7K9X`_V@EDW
qZJ;EUWN=<!gd8gt<[@zrhB#zE)/FND,:?l<:bqB?b,IQ>;#:I$SX09vZnJor;;XTNmR3K8dqpewcYE[.;.C#y/^qv'P9JE^S]a_
X*APMR.5_=FtGLsP8?yrmT`'g?>?w'g4##4qO_Mak2kp^UBGp]QHqvla2k+4+CUGLOD=ip0&!o!?.r[SnlXj0;y!@SKfr@djNIso
^Si5!Z]3yyB7o1!LMTs=q[kGK*l9WPUDNidgjDR2f4HhRjKFEzps:x+tX7s4h;%>N+0Cft1/0n)cX/qg%U,`SU.^Ccm5/cV'qq3C
hvXjnK]o,fhl4'f'A4VF#gdLD35?v'gY3FSU,t,zdQz]mJ+A>fS`>h78xn0@]Y(Dv/0Pe1OkNkb)[yzpgD6.G1uNPTjQ42EQY>@
[!=TVzn[+u-c'>lW#2:>0Z,UVJ;cYU&tNMb/MxTT_42t(y=Gc'nhN.LSVxuQ$YjR1,fdJ2Dl5hNL;`pKzhWm&5Asv3:.ggWoiJrt
EQcfTVM4AlIx%HC_F#CQSUxN.Kg$v1FS)y[gD8gGlk`d]oSwUjZWQ8VRJf1^f?)2kW$dhQY#N.3#J]+)x,BZMeFL>>@TYhCm5'v'
iFc>'>e4A(pR)Niw1eiFET1nH-*nkG4lq#[(T.2,C[k[<5@G&'.xLQ-k$Vtio-n0[enPIfMUR]/Rin^kVxfz5IbRPBLJP-^B#$rs
%U1=Rj3MR@CoBmv0<V6K5#*Dhj1OYwn1F0)QNm.Bq-'*b+.xFgb7T.#JtBq!L][,`d'Sg7$!$UgTF]XLoUW<kjFSsyeW.(E`h3==
HDETRX*Bm'x9d:usfbxtp515N:Yc'WK4S'o^U!2qo>-cCf$</MC8f0[]wp;aX3>W2rWRhK0xHZL$T/<:7h&RVRivY^ihU[<y>izo
lQT-/*z)c+%sNr]X9oE0<_I!TvPnp./Rt.gxo4rD779q`_#GZqo4,=;3lz%r&7@qBwXOzYdBg,Hk@c`9ZPAak3`[yW$U(jDYv(-s
%zUAnQ>jbKm)2uX%'Fz/^YB86L-&9Pj2es6sDNnpGsyMJlM>58@$_3#ey3v^z(ksnUsfq>P?uF&-f+g7Uwy*J1Hv=t3U&v]AbE>*
3LiJpn@Gy],x%Kz5Clv9rK4[e39!!YDY?yxaSMYiC(Y!zY4]W6vywmJ=YZa.7Rv;(L4rCUDMLO2v$!.N^p9r8OEsLW?DQ$jw5OpY
lbiL5-:x,Go^YY$!1@`a^DpiP-c[z=%iEjkfh&j^wRDuN8nTYKK#W]Wg;_Gn+V$P[V;Hjv;Im;v+uns(7*MsYsUOE0d)clf!LK4
k#:IrC8g:-E/_%N]ncrZN#SMOySjp73;*p299^8Fx]eCN&&&ihhMVuIx$KG%xPf9sso,J'LfL'uL_8n[mL$&)@UKb07ZnvCUD4X
:->Dvv;%w>2IskGwlL(OPlUl@vc!v`p8[Z<H1<oe/t.SbueXKo]SCHH]5VVCz-#Tx4p+dS$Je!`Ibs>:X$djU+IIh.Tn%$vwKHs[
lvcec1O;!jhcWP3+rGqCGA+.$n`m<SyHv4T&>q)O[xwe_T+]]WDuo#2oB%2GR&QofQYYHihB-G7tIGsJnr/]A3auFd6*edWWFKzS
>+gKsd;Hht2O>QFX=>=];mO^&KGg],gk]NS5.TaAzm!Q@XI-'KE12PM9Ux0%lFZP$+)DvpZJ,M?.RHR65-G>p.&s5^h&8@dZdCr
A#:oXB&2b6eGyP;32a(qD'KE*1lg2dk7A9s-]6mi<Ks2Phr?QnLd6?^wOnrhG60LnGk/!._Tf]2vy'Bt9YE2?V?Ds0:_1ilsd:]%
LQFc*IX<)EOoH06h7pL7MJVph6n@+D0Asy87QsF4X<3'4-Q,<2O#6:/8DNcy0[mp>OpuYW)mBb@.J!n.P_I/XnBK(0w:C@]$/qZw
k.Hx4L]P+Xa@rUTy:_.jDCM>l>>9,(cV-Y[5LEu9Mn9!f`x2?`mFI/,IZlb*Hd[`n7'3SiQ[qbIvzv7Gqy/I8.E)-?WN*H^Mik?]
'KU9Az$1h,-TC]Z8&[zs=kycPr(#-EgdcBk4iOU@G<VNF[o10'=_Y+'lQN)o3*Cc(!Q)-)fMSq1a2Q<0J7qNepfaaH<9H,#9-b%l
Lg*sZt@c(.T7O2C5w<9;s9dv]'*LY`<v$HdO.Qnc=4Ex3qJ1GT)9Fgr;`+*RiYkbpdR#gZo*SmUN3xrwh6Y?eG,QN;,J*E&fe:I`
rWUy'xhT8zO:TzC2_/u7:^3`nLVQ(^oyX._v:emE*:?QZ`:=u-FIYag!JF/1OHhNNu[J;4y%9je.4luQeMC%xT>@Y`I9)tUiS9.I
CwHNFew&KZoPZOveuv0T&=iE$^_u'=#N0jxrcE><'N=[&%uW^_omiuDdqJYXO%,g1_TRmtx''qV6bvD`-n'Y27I_R2@,!0.([/N)
q>v5nJPP>%>e2EJL08J,ulN_;7oP%NH?6JhH:>H4W^UFc_F=i]$(Qlt!uQg)(>I%l$)IawAW1RWOiLmnx#-0-Ff7aQgMUI3)!1mU
+F.=.pO:^'j*^XV'cK]X:ogvL+0%/aAdanK?4Vu2R18NQ5ym@=;;&cZ=8?4DMt-kck35F!1u4hPVRjE84U5xn*x_RGOsqZ;T5K26
NYL.&*2'0YjO^ku9U[FsI7tlKL^6ZN1k!3o.uxRrtHf==sARc'8PXjJ52b^kz$ZSFh@3CHx9-dC9jM26;i$qm8A:qg<wgr+(Me)(
]ESXt![)kPSiiWz^7^EA^>V<c11>>n&^LvrxBTN(,d%Mat3^G:d9r`Mhq>n+e1]e9N>QNHkC`3:F5wQc4Q<,:ST83k3m^`v$&h)E
[$sz0VX[SoI8rE>vt>_Lw?d-za:aw+6dLz-:Vtyjhg&^-O#Z(C/BAcyR3#3(gGjuDriZ@lb<L^JRwCE75^$=w-=]rJH0T>(jD's4
lf9G0AT8!_E3QdW3Raui4HFkAI3Q0WjmOvG.!/5Y_t`76.E9`<)>RyL0nGSC-=nrU&<zcl[o?o8@C,G1sw;ZbW!t+?lsZ%=705og
g_S_P#wTJHqD3Gg$S3/3!:jtVilZevc/Pww0+.BIMWKw^qr)0cgk@qG+f1lhE=N><r9GgE0]Qq.%<X.1B<>EN23>9M()NYCY!1,:
M_[;eb[gPf^aD:5fZ3uW<uO8bvgdEgBy]:NcKCk7@P(Sv[x^-0QLu6n9vyi'XR=7ESS_ta)o(1L:sC]+xp4qgf4rNx:O2Hk^HGN?
NhI#xA';K?^Rii,4bM@l]`XXHV3@88<4yu>)2etPJw;8@'@PKu?T3rS0Eq/d+zPeX%W^TU!2^QiSXq`Jm.@JsNv]BEz+!')xl'q_
TJBnnzzXlD+f,`KtilUk8DLfi:<FpM']:gE+nylEiUTpS2,1I18VpD#V;#OGpUj;djghP_xRpV2a)(pMY8FN<(I#WEWUhC=iz*.h
AO=%LHFWHGK+_fe&qvdNEmO0%.X)k8a[%mEqHE?G*>$Ae`2&6%G0%S<.FK=*B^>TyMg;We6W=3:al2QL0PxTz#Xi;M.r#fm<,UjF
ycKA^;lM''3ME(2?rY=SL.ONWA8Rkd&Pc&w@g_X'gixE!;`o`6*q2,C'j>e_x*QA$9)hB=*s2to>8_8-@he9oS<8$G/R_i7pR`YP
qS=h*%##47>OI?h1Gp=N0T1?+j/V5GzZ*wgOq,;ta+$Ysy8)fU0_*1_TuTxo7`BJ?n+3m<3GpfEhRr!)FSOkFxzoB6b^*Kv4_R)a
*=ZQ%>:;ij`NWEU't3bmu^n[kcnT4XRT,&:8Y=:LRja6iuL?S$;0G1n@F9J6VbLJgfVfL;8j4Hc45EI+$r+E4jyrTp#w)!gu1vV5
&=-;TDD*oe5&*6f4cQ&RIv?G`SNLg#dGlNGF8Caws:]mvq@K'!T2(,!<H+uV&.arA'8.)N<8^$GldeRue'h)0bcHZdyP4nb#;?&T
m<$f324R*6AM$i#sw6aK8LLKSNgu%?AJ)px72?.Vk'),;iaa!1,-zN6!,kruGmi9Aw(9<Fk*ZLP!?*mHn`CoWYC*&;%_qZ5_O'(^
GAi>ylE)Mt[rYMds`1Ql1f:8+#=)H8ga@kF$f<s!*yqi>%?ycm(y4$rCYJR?QRf0:v/y'K-W]'Qm)]bE?YK+7ziGmvJVT8)(bR#h
`zj<5@te?#zGL$h<PS7&bJjIISo)%;tHWZ-;3Gpc7sqJCY!A1^5nu$I>sjbvB6s(df&,[UEyL4yfYXtn!g9n:T2aG:n_15(Ksi.v
;l<%._nv6<cO>TtMg)BEY>eJ)ZZO'<A[MJpe/jwLJc$$W,RY1O)p0uX5PWQ_9Fy+3?BdHtT/'1i14nAQ5cc:_F@rfP97G8jidiO
p@Pc<?E,ICR$`+'(5`G'?0ojm_h5*#)?[0$LY%CkgXe+^sRBeV+R,Ok!G&?Br$$vOq4)Vnz`B@YB/Og4j%Tb;DjYjvLMUPc)QkoR
8m?=i%23>98z?*x>._)cK_Xk!R90NH2Ot(QstZ5'Im!+sLiyBExazcb8O]='j]:7aapUr.iwwA_2(!6qnpYg^_1ae%d,t1?uC2&b
Pd0!V4ep:K@wn6W?Q//@B^,o+MoTWL(Yoq-T;3>7]fZKS55@B^gX=?u(-=r]X-ORui4;GAV3SFe5by(';'M>3cMJe/3X?oPh34rO
M7`o]%X>'F7ge'(Wiw3s]&[XXW=3z.<Wkk0QW(LF6P^V]rUHS)4QEUU$T&qYsP*;BL]6RNzMtASzm]+TDXXT<;SlGv78owclbg$*
q8ZT#rCYtx.o14y/bSyaTzNoA,.:(L(K!yt2l3y4U7G-;7-%[z.HRH:q:GRFm&vc`HPF1wsnZ7d]`qC3Q`3=EhQQ-Yx,vf0Z/:04
dP,Z6.J<UW``s%i,H3SJ%fFT$fe;'dy6oV't$d$z>/t60c8r@HM40ZR]pXZJpIDK#P<.IuZyoEPLLeZ5=FXWsP:1o%K#xPU6nhz-
vkB,NXQGBch28<bLW#%L=TG)TU6eR+W,D8*:FAf+qu?txWN=^&,^<ZfrMV.rh-%jgL&x(fjoMY5c$d?fR/B/U6gqjomQwT?ExU0w
B9b(W>/ZxhQq5-M@!hJ.A<IRmgQ.lg:Cs:<`>)z^nV<'*$lw3SHY[f,pM_6@mz<utvClUI+7&_S9&=n!1lOC)qk)bbXLA9A[RbAn
:hsrd$b$da@[690ytjk)h<-W$2=RWu9Ch9NR?<FZ.!-hVJh)eGaYKR[v3rre[cvhc/>A8Vd6vYf)anWv/rAX#i8,L1OVw8,.4K(t
<r**0F`BtagF==ZHp0YVTfEpGeX7H@,*:S<'*39>8YLSo*bsp9Dpglnt!$_RXNEhfr3UBY(8C?Qn0w'=AzwoOu1m_rH)XyT<@apj
RIk1XZnFO%TD&9S&l(!;5U,YvEwME)k)1^G8Y_C_$l>32E@P'8!1-ql(31+wQgIh!PVT?_.^9G3'0;hx,R)(w6H5WK<9jDLh=.*n
uDVb%y4rvjMe7f6`@8o'$sKvp],>(M.+Q/d(+`lkl`W#<o%68>D:8D'PL$?!fgNNJN`SjE6)1?-=Gdp:;#,h7JU#WKm(r(RY1T'S
XT#pATi`4&Nt):DhO2I9H#tx;&5;$Pz#^hB=wUSC4H4yVZv_A7*5n*0?xPdBT'A7vOODJye%veUu)!dI`qh]-59_Grjf9q1uVjlM
dh0]?LFVcXIP@WpXLnlKd1-;j;kmjvRILG9;;QOp0w0UfzQDBA=m(e.wFBkvr;,(*w*CHvtEUId9I?<CDc-CX)F2xpBI^NE2Xv%S
O/7S2H1.;(TQ]hEtsd&QnPfTmMlyX5E$!1Ceg,rbzJ1!F&U>N'Zf>sKN<V2V1pOfKqs(pY@*bM9V;&mAl]605@eh=aAXgcOCevXd
v<X'@TR^wb,K-#0^lxwdy0B+LB3Ia*4kX7%1>&q8#DaPd7TKRbm$Q;14MP&PS'J.dWc@Z4v(4SEcOC`zpo(GY3(GF7m7S,G7`gb=
&,q409B8%EG.VhU3x+l3VW5='wOdFNXe^Pqi?>-nMLm0A7mL'-Q]ir_EWE;xW,NX%(%VB0ew,z?GsWdh(?anx!%pQ$^d%0y.:kwu
^8:Xy]en.baO<4czdcWA%=RYIEM(fF)TOxo?0Ywj.UGZv23#JzlV>89fd28CsG7e':/Sv-fq7g;Z7)$oZWJbn]CLL02lp]!;s;bY
UG6l4=^tI3E3=Xs'6SiF/A6>&Ud]N16]Ld0>Id<+ni6,@hO`;<O*j#'78ynOS4>wK]vb*p-^?'yIXv!pDgwf3w_%L<3pu@a+H`/R
`9VY[P;Z]Nl56aV3LQ[m86KsB;GPA/[_p&nK/^O2>'JBq<E]p/lyZ0bWH4mVYI9r+$J>KH$=#qyWM:z&hA@p/0&LI%i@vw-pxQzP
j#jABYy^GAq.xqcROnD3Y+zGk^%*FUmI`:r]N7%9:bWeu:cFzqhx:NN5RM<)bLy)l@mMnS'Cd==cy5x/B)NYMmXxZna^q2M#S@a$
w1;n'vDIB5@^(X]__P!e])spp0?3ML'1xj.0H1(*fB2P@-=EQUre;=L9-[Iq-`ms>3kcbW32Awr_t[k]0U4&*lxEo3]uW0a[(Xjh
*XX7zoV%@u%WDl!$(heMLFDSLEW5'o0PrMPgW_#I!8/,Nu;O+GGg.(AGF,1Ip^7U7,%p??>B79_KxNy)Bf?TEfa7Y(VTLbOF^r=t
4]4-IN.f-5elwl.]FL:Knuo5sJptw`_SegdU0<`yT.xFHLf+$XKKHt/<8bU`5km>GZ;%$F1v,Vuy00JtIU2!1Fn[45bx$Dp`%sWU
[98I!LAnI'X[:mXO-qK!A[T$2uY>N2m^Z;I#;$?sQU<)@CVZ=YZ>i;m=G=I)UkMyt_WmBKP9a&mtceR#ZPL.AdCRs-rn)ow^n$80
C(W5B'*%2Iaz+Jy8a$Jj73$.W]o&^+@!TT36b>Kt;o6Q)(nY=3Na05=d:EW@(%pj/;LaRpki6Ilu<eA:`3$KgXK4<s/rxqQmZCf?
9xO;Tk,nf,v6I!Vn65;.-#]l(d$9$!)C*T3C;gFcV=)0zpa]-*iY,w8VS#2*7QT7)qBg/L<1^%R+f$CGr-6@Dp=43FRNiypS%Z#T
gbZQd;,z&uKLql[@zT-V0-1Xb3g_ljk)xtR*ksqf0i`5v<nYNB^X*hh`ewHQbUf,Ys(@D&qzHIW,0RcW]ekQ(FHal-_ven?V1;Ot
Gn;J%:kHT[59*:#rzNuig1-?8eW[Z0PZYYp<]PqpUJoI&hVvY]haq>]Yq$PEOU4.]yO[`%t3j&KxaW2D%](6en24-UW`4)E^kL+B
9*7vD-'>&q9;!O*uPB3[mAVh.Z>uK5RFn.ez5k/F^?&'^1;5FFD4=Pc389c8+UK7f-]xn#Ew-#qRRxYm4$_2RmAwWS[yIWtWE`q>
9O0Z':P_s3b-aav6cwtcI6-!J7aI$_kX`_0cRo*SrAl&Eo*%xJmtd+7I'@^<)=BeD,L2d-3KTga[2+X]#9?'g3Qj?eqjTPk<PW8h
TRqg<EF88SZx`5Iur$K9UR`gP]v++I,#L8nxXy<pl`!ffUo]F^>Wfti`9_d39?YdNqQV7KFgR!(L=tt84%HXy(yfWg3T'b!z?!%]
dFsgeHHti(s3,sZVTg#)QwLd+n7D$''h!aX@-lo:XckI4bze*PTouBJGB:4BtB`M_>]-9tcC/vBVyFG7'TqLt'V#%0n<rCFY=O:5
itG5E>1#>5>'yD$2p4!)1pV?;+X%$O+5I1kQ=*[;V#=:^T#TEL1P/haIe2sl^wp94);4Eg;(!v%xBCa3ycQ#:@Ji$MYY5aS9m*f7
x^pVjIunwj8#N7^$knq$9&2mf:NfkVkLpvFD:AA_:80b+QojH4Ig&;IzP%?DeRa8J&!ZGNAZ7K[4@=0TK*5_Bb&f1-I<!y:_;g-W
j0?o]cPW4C1^jqQ[oUS:+$d1;V9i[N]>*$D[='_GYCWjFh8<Co]_U[.%r`k9EvoN1tDMc)tR_QGmKDQ(c0!vXl`Vgf'Q@l;W6xU6
:v]tmekMA]ON'pvN)LKCPXZUyZlxcuIb-pmzb=&5]2C][`7OUQr-l4EL.=P5v(Z3=,1U`a#*-jzt,+W6N20xXd&o!pbZwFf2(O=Y
f-IJirIE5P;/aU'y.aDw[+E3mwz,<NDil<+_ZniV/08!mu)U:#eE22<[I8K4l@u+aU^@Z$kl#AKtC5gH9]%Hxe$?%>bGVIpUwY*V
>??rSK8O';lh;k,P)YTC^&-TOlP0prFL?s5Pu7Ts2=;jsA:(q<GF7#_v5t[cAYh;b2Nd'Z_W12X5[9KK`B!&=UNCtG`WuRDN@]p^
9"

end KeywordCatalog.Text
